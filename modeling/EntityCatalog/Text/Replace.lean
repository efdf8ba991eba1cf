/-!
Parts of a text replaced by others, from left to right and without overlap.
-/

namespace EntityCatalog.Text

/-- What follows `start` at the head of a text. -/
def dropStart? : (start cs : List Char) → Option (List Char)
  | [], cs => some cs
  | _ :: _, [] => none
  | p :: ps, c :: cs => if p = c then dropStart? ps cs else none

/-- Replaces `old` by `new` throughout; `skip` characters belong to an occurrence that has been
replaced. -/
def replaceFrom (old new : List Char) : (skip : Nat) → List Char → List Char
  | _, [] => []
  | skip + 1, _ :: rest => replaceFrom old new skip rest
  | 0, c :: rest =>
      if old.isEmpty then c :: replaceFrom old new 0 rest
      else
        match dropStart? old (c :: rest) with
        | some _ => new ++ replaceFrom old new (old.length - 1) rest
        | none => c :: replaceFrom old new 0 rest

/-- The text with every occurrence of a part replaced.  The empty part does not occur. -/
def replaceAll (old new text : String) : String :=
  String.ofList (replaceFrom old.toList new.toList 0 text.toList)

/-- One character is replaced wherever it stands. -/
theorem replaceFrom_singleton (old : Char) (new cs : List Char) :
    replaceFrom [old] new 0 cs = cs.flatMap fun c => if old = c then new else [c] := by
  induction cs with
  | nil => rfl
  | cons c rest ih =>
      rw [replaceFrom, dropStart?, List.flatMap_cons, ← ih]
      by_cases h : old = c
      · rw [if_pos h, if_pos h]
        rfl
      · rw [if_neg h, if_neg h]
        rfl

/-- The text with every dash turned into an underscore. -/
def dashesToUnderscores (text : String) : String :=
  String.ofList (text.toList.map fun c => if c = '-' then '_' else c)

/-- What follows `start` at the head of a text. -/
def stripStart? (start text : String) : Option String :=
  (dropStart? start.toList text.toList).map String.ofList

/-- Whether a text begins with `start`. -/
def startsWith (start text : String) : Bool := (stripStart? start text).isSome

end EntityCatalog.Text
