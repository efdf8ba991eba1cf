import EntityCatalog.Diagnostic.WorkflowCommand
import EntityCatalog.Json.Parser
import EntityCatalog.Proofs.Label.Rekeying

/-!
# Workflow commands are read back

A command is one line, and a line holds one command: no line break is left in it, so a message can
neither end its own command nor begin another.  `WorkflowCommand.read?` is the reading of such a
line.  It cuts at the first `::` behind `title=`, which is in its place because no colon is left in
the title, and undoes the percent codes.  What it gives is the level, the whole title and the whole
message (`read?_workflowCommand`), so diagnostics that differ in one of these have different
commands.

The work is in the order of the replacements.  Each of them runs over what the ones before it have
written, and that this comes to one pass over the characters (`toList_escape`) holds for tables in
which no code has in it a character that is escaped later.  The percent sign is in all codes, its
own among them, so it has to come first.
-/

namespace EntityCatalog

namespace WorkflowCommand

open Text

/-! ## Escaping in one pass -/

/-- What is written for a character where some are escaped. -/
def codeOf (escapes : List Escape) (c : Char) : List Char :=
  match escapes with
  | [] => [c]
  | e :: rest => if e.char = c then e.code.toList else codeOf rest c

theorem codeOf_of_not_mem {escapes : List Escape} {c : Char} (h : ∀ e ∈ escapes, e.char ≠ c) :
    codeOf escapes c = [c] := by
  induction escapes with
  | nil => rfl
  | cons e escapes ih =>
      obtain ⟨he, hrest⟩ := List.forall_mem_cons.mp h
      rw [codeOf, if_neg he, ih hrest]

/-- A character is written as it is if it is not escaped, and else by a code of the table. -/
theorem codeOf_cases (escapes : List Escape) (c : Char) :
    ((∀ e ∈ escapes, e.char ≠ c) ∧ codeOf escapes c = [c]) ∨
      ∃ e ∈ escapes, e.char = c ∧ codeOf escapes c = e.code.toList := by
  induction escapes with
  | nil => exact Or.inl ⟨fun e he => absurd he List.not_mem_nil, rfl⟩
  | cons e escapes ih =>
      rw [codeOf]
      by_cases he : e.char = c
      · exact Or.inr ⟨e, List.mem_cons_self, he, if_pos he⟩
      · rw [if_neg he]
        rcases ih with ⟨hne, hcode⟩ | ⟨e', hmem, hchar, hcode⟩
        · exact Or.inl ⟨List.forall_mem_cons.mpr ⟨he, hne⟩, hcode⟩
        · exact Or.inr ⟨e', List.mem_cons_of_mem _ hmem, hchar, hcode⟩

/-- Whether no code has in it a character that is escaped later. -/
def Layered (escapes : List Escape) : Prop :=
  escapes.Pairwise fun e later => later.char ∉ e.code.toList

instance (escapes : List Escape) : Decidable (Layered escapes) :=
  inferInstanceAs (Decidable (List.Pairwise _ _))

theorem toList_replaceAll_singleton (old : Char) (new text : String) :
    (replaceAll (String.singleton old) new text).toList
      = text.toList.flatMap fun c => if old = c then new.toList else [c] := by
  rw [replaceAll, String.toList_ofList, String.toList_singleton, replaceFrom_singleton]

/-- The replacements, one after the other, come to one pass. -/
theorem toList_escape {escapes : List Escape} (h : Layered escapes) (text : String) :
    (escape escapes text).toList = text.toList.flatMap (codeOf escapes) := by
  induction escapes generalizing text with
  | nil => exact (List.flatMap_singleton' _).symm
  | cons e escapes ih =>
      obtain ⟨hcode, hrest⟩ := List.pairwise_cons.mp h
      have hkept : e.code.toList.flatMap (codeOf escapes) = e.code.toList := by
        have hself : ∀ c ∈ e.code.toList, codeOf escapes c = [c] := fun c hc =>
          codeOf_of_not_mem fun later hlater heq => hcode later hlater (heq ▸ hc)
        rw [List.flatMap_congr hself, List.flatMap_singleton']
      have hstep : escape (e :: escapes) text
          = escape escapes (replaceAll (String.singleton e.char) e.code text) := rfl
      rw [hstep, ih hrest, toList_replaceAll_singleton, List.flatMap_assoc]
      refine List.flatMap_congr fun c _ => ?_
      rw [codeOf]
      by_cases hc : e.char = c
      · rw [if_pos hc, if_pos hc, hkept]
      · rw [if_neg hc, if_neg hc, List.flatMap_singleton]

/-- A character that is escaped, and is in no code, is not left. -/
theorem not_mem_escape {escapes : List Escape} (h : Layered escapes) {x : Char}
    (hx : ∃ e ∈ escapes, e.char = x) (hcodes : ∀ e ∈ escapes, x ∉ e.code.toList)
    (text : String) : x ∉ (escape escapes text).toList := by
  rw [toList_escape h]
  intro hmem
  obtain ⟨c, -, hc⟩ := List.mem_flatMap.mp hmem
  rcases codeOf_cases escapes c with ⟨hne, hcode⟩ | ⟨e, he, -, hcode⟩
  · rw [hcode, List.mem_singleton] at hc
    obtain ⟨e, he, hex⟩ := hx
    exact hne e he (hex.trans hc)
  · exact hcodes e he (hcode ▸ hc)

/-! ## Undoing the codes -/

/-- A text with its percent codes undone: a percent sign and two hexadecimal digits are the
character with that number. -/
def unescape : List Char → List Char
  | '%' :: a :: b :: rest =>
      match Json.hexValue? a, Json.hexValue? b with
      | some high, some low => Char.ofNat (16 * high + low) :: unescape rest
      | _, _ => '%' :: unescape (a :: b :: rest)
  | c :: rest => c :: unescape rest
  | [] => []

theorem unescape_cons {c : Char} (hc : c ≠ '%') (rest : List Char) :
    unescape (c :: rest) = c :: unescape rest := by
  rw [unescape]
  intro a b tail h
  exact absurd h hc

/-- Whether the codes of a table are percent codes: each is that of its character, and the percent
sign has one. -/
structure PercentCodes (escapes : List Escape) : Prop where
  layered : Layered escapes
  percent : ∃ e ∈ escapes, e.char = '%'
  undone : ∀ e ∈ escapes, ∀ rest, unescape (e.code.toList ++ rest) = e.char :: unescape rest

theorem PercentCodes.unescape_codeOf {escapes : List Escape} (h : PercentCodes escapes) (c : Char)
    (rest : List Char) : unescape (codeOf escapes c ++ rest) = c :: unescape rest := by
  rcases codeOf_cases escapes c with ⟨hne, hcode⟩ | ⟨e, he, rfl, hcode⟩
  · have hc : c ≠ '%' := by
      obtain ⟨e, he, hpercent⟩ := h.percent
      exact fun heq => hne e he (hpercent.trans heq.symm)
    rw [hcode, List.singleton_append, unescape_cons hc]
  · rw [hcode, h.undone e he]

/-- What is escaped is read back. -/
theorem PercentCodes.unescape_escape {escapes : List Escape} (h : PercentCodes escapes)
    (text : String) : unescape (escape escapes text).toList = text.toList := by
  rw [toList_escape h.layered]
  induction text.toList with
  | nil => rfl
  | cons c cs ih => rw [List.flatMap_cons, h.unescape_codeOf, ih]

theorem percentCodes_title : PercentCodes titleEscapes where
  layered := by decide
  percent := ⟨⟨'%', "%25"⟩, by decide, rfl⟩
  undone := by
    intro e he rest
    simp only [titleEscapes, messageEscapes, List.cons_append, List.nil_append, List.mem_cons,
      List.not_mem_nil, or_false] at he
    rcases he with rfl | rfl | rfl | rfl | rfl <;> rfl

theorem percentCodes_message : PercentCodes messageEscapes where
  layered := by decide
  percent := ⟨⟨'%', "%25"⟩, by decide, rfl⟩
  undone := fun e he => percentCodes_title.undone e (List.mem_append_left _ he)

/-! ## Reading a line -/

/-- What stands before and behind the first occurrence of a separator. -/
def cutAt? (separator : List Char) : List Char → Option (List Char × List Char)
  | [] => (dropStart? separator []).map fun behind => ([], behind)
  | c :: cs =>
      match dropStart? separator (c :: cs) with
      | some behind => some ([], behind)
      | none => (cutAt? separator cs).map fun cut => (c :: cut.1, cut.2)

/-- A separator is the first one if its first character does not stand before it. -/
theorem cutAt?_append {s : Char} {before : List Char} (h : s ∉ before)
    (separator behind : List Char) :
    cutAt? (s :: separator) (before ++ (s :: separator ++ behind)) = some (before, behind) := by
  induction before with
  | nil =>
      have hdrop : dropStart? (s :: separator) (s :: separator ++ behind) = some behind :=
        dropStart?_eq_some_iff.mpr rfl
      rw [List.nil_append, List.cons_append, cutAt?, ← List.cons_append, hdrop]
  | cons c before ih =>
      obtain ⟨hc, hbefore⟩ := not_or.mp (List.mem_cons.not.mp h)
      rw [List.cons_append, cutAt?, dropStart?, if_neg hc, ih hbefore]
      rfl

/-- What a workflow command says. -/
structure Command where
  level : String
  title : String
  message : String
deriving DecidableEq, Repr

/-- The command in a line: the level stands before ` title=`, the title behind it up to the first
`::`, and the message is the rest. -/
def read? (line : String) : Option Command := do
  let command ← dropStart? "::".toList line.toList
  let (level, properties) ← cutAt? " title=".toList command
  let (title, message) ← cutAt? "::".toList properties
  return ⟨String.ofList level, String.ofList (unescape title), String.ofList (unescape message)⟩

theorem space_not_mem_level (s : Severity) : ' ' ∉ (level s).toList := by
  cases s <;> decide

theorem level_injective : Function.Injective level := by
  intro s t
  cases s <;> cases t <;> decide

end WorkflowCommand

open WorkflowCommand Text

namespace Diagnostic

theorem toList_workflowCommand (d : Diagnostic) :
    d.workflowCommand.toList
      = "::".toList ++ ((level d.severity).toList ++ (" title=".toList
        ++ ((escape titleEscapes d.title).toList ++ ("::".toList
          ++ (escape messageEscapes d.issue.message).toList)))) := by
  simp only [workflowCommand, String.toList_append, List.append_assoc]

/-- What is escaped in a message is in no command, if neither the codes hold it nor what stands
around the texts. -/
theorem not_mem_workflowCommand {x : Char} (hescaped : ∃ e ∈ messageEscapes, e.char = x)
    (hcodes : ∀ e ∈ titleEscapes, x ∉ e.code.toList) (hcolons : x ∉ "::".toList)
    (hname : x ∉ " title=".toList) (hlevel : ∀ s, x ∉ (level s).toList) (d : Diagnostic) :
    x ∉ d.workflowCommand.toList := by
  obtain ⟨e, he, hchar⟩ := hescaped
  have htitle : x ∉ (escape titleEscapes d.title).toList :=
    not_mem_escape percentCodes_title.layered ⟨e, List.mem_append_left _ he, hchar⟩ hcodes _
  have hmessage : x ∉ (escape messageEscapes d.issue.message).toList :=
    not_mem_escape percentCodes_message.layered ⟨e, he, hchar⟩
      (fun e he => hcodes e (List.mem_append_left _ he)) _
  simp only [toList_workflowCommand, List.mem_append, not_or]
  exact ⟨hcolons, hlevel d.severity, hname, htitle, hcolons, hmessage⟩

/-- The reading of a command gives its parts. -/
theorem read?_workflowCommand (d : Diagnostic) :
    read? d.workflowCommand = some ⟨level d.severity, d.title, d.issue.message⟩ := by
  have hcommand : ∀ rest, dropStart? "::".toList ("::".toList ++ rest) = some rest :=
    fun rest => dropStart?_eq_some_iff.mpr rfl
  have hlevel : ∀ rest, cutAt? " title=".toList
      ((level d.severity).toList ++ (" title=".toList ++ rest))
        = some ((level d.severity).toList, rest) :=
    cutAt?_append (space_not_mem_level d.severity) "title=".toList
  have htitle : ∀ rest, cutAt? "::".toList
      ((escape titleEscapes d.title).toList ++ ("::".toList ++ rest))
        = some ((escape titleEscapes d.title).toList, rest) :=
    -- no colon is left in the title, so the separator behind it is the first
    cutAt?_append (not_mem_escape percentCodes_title.layered (by decide) (by decide) _) ":".toList
  simp only [read?, toList_workflowCommand, hcommand, hlevel, htitle, Option.bind_eq_bind,
    Option.bind_some, Option.pure_def, percentCodes_title.unescape_escape,
    percentCodes_message.unescape_escape, String.ofList_toList]

/-- **A workflow command is one line from which the diagnostic is read back.**  No line break is in
it, whatever the message and the title are; the level, the title and the message are what its
reading gives, so two diagnostics have the same command just where they agree in these. -/
theorem workflowCommand_read (d d' : Diagnostic) :
    ('\r' ∉ d.workflowCommand.toList ∧ '\n' ∉ d.workflowCommand.toList) ∧
      read? d.workflowCommand = some ⟨level d.severity, d.title, d.issue.message⟩ ∧
      (d.workflowCommand = d'.workflowCommand ↔
        d.severity = d'.severity ∧ d.title = d'.title ∧ d.issue.message = d'.issue.message) := by
  have hlevel : ∀ s, '\r' ∉ (level s).toList ∧ '\n' ∉ (level s).toList := by
    intro s
    cases s <;> decide
  have hreturn : '\r' ∉ d.workflowCommand.toList :=
    not_mem_workflowCommand (by decide) (by decide) (by decide) (by decide)
      (fun s => (hlevel s).1) d
  have hfeed : '\n' ∉ d.workflowCommand.toList :=
    not_mem_workflowCommand (by decide) (by decide) (by decide) (by decide)
      (fun s => (hlevel s).2) d
  refine ⟨⟨hreturn, hfeed⟩, d.read?_workflowCommand, ?_, ?_⟩
  · intro h
    have hread := congrArg read? h
    rw [read?_workflowCommand, read?_workflowCommand, Option.some.injEq, Command.mk.injEq] at hread
    exact ⟨level_injective hread.1, hread.2⟩
  · rintro ⟨hseverity, htitle, hmessage⟩
    rw [workflowCommand, workflowCommand, hseverity, htitle, hmessage]

/-- A message that would begin a command of its own, and a name with the separator in it. -/
example :
    (Diagnostic.workflowCommand
      { issue := ⟨.warning, .schema, "100%\n::error title=x::y"⟩, entityType := some "a::b" })
      = "::warning title=Schema issue in a%3A%3Ab::100%25%0A::error title=x::y" := by
  decide

end Diagnostic

end EntityCatalog
