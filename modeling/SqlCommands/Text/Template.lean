/-!
# Templates

A template is text with numbered placeholders: `\x7b0\x7d` stands for the first substitution, and a
doubled brace for one brace. `Template.expand` puts the substitutions in, or blames the first
place where the template is no template.

Positions count bytes of UTF-8.
-/

namespace SqlCommands.Template

/-- What can be wrong with a template. -/
inductive Fault where
  /-- An opening brace starts no placeholder. -/
  | malformed (position : Nat)
  /-- A placeholder's index has no substitution. -/
  | missing (index supplied : Nat)
  /-- A closing brace stands alone. -/
  | unmatched (position : Nat)
deriving DecidableEq, Inhabited

/-- The text of a fault. -/
def Fault.message : Fault → String
  | malformed position => s!"malformed placeholder at position {position}"
  | missing index supplied =>
    s!"placeholder \x7b{index}\x7d has no argument ({supplied} supplied)"
  | unmatched position => s!"unmatched '\x7d' at position {position}"

/-- The value of a run of decimal digits. -/
def digitsValue (digits : List Char) : Nat :=
  digits.foldl (fun n c => 10 * n + (c.toNat - '0'.toNat)) 0

/-- The largest index a placeholder may name, whether or not it has a substitution. -/
def maxIndex : Nat := UInt64.size - 1

/-- Read a placeholder behind its opening brace: digits up to a closing brace. -/
def placeholder? (cs : List Char) : Option (Nat × List Char) :=
  let digits := cs.takeWhile Char.isDigit
  match digits, cs.dropWhile Char.isDigit with
  | _ :: _, '\x7d' :: rest =>
    if digitsValue digits ≤ maxIndex then some (digitsValue digits, rest) else none
  | _, _ => none

private theorem length_dropWhile_le (p : Char → Bool) (cs : List Char) :
    (cs.dropWhile p).length ≤ cs.length := (List.dropWhile_sublist p).length_le

private theorem length_of_placeholder? {cs rest : List Char} {n : Nat}
    (h : placeholder? cs = some (n, rest)) : rest.length < cs.length := by
  simp only [placeholder?] at h
  have hle := length_dropWhile_le Char.isDigit cs
  split at h
  · next heq =>
    split at h
    · cases h
      rw [heq, List.length_cons] at hle
      omega
    · simp at h
  · simp at h

/-- The bytes that characters take in UTF-8. -/
def byteLength : List Char → Nat
  | [] => 0
  | c :: cs => c.utf8Size + byteLength cs

/-- Expand a template whose first character stands at a position. -/
def expandFrom (substitutions : List String) (position : Nat) :
    List Char → Except Fault (List Char)
  | [] => .ok []
  | c :: cs =>
    if c = '\x7b' then
      match cs with
      | '\x7b' :: rest => do
        let out ← expandFrom substitutions (position + 2) rest
        return '\x7b' :: out
      | cs =>
        match h : placeholder? cs with
        | none => .error (.malformed position)
        | some (index, rest) =>
          match substitutions[index]? with
          | none => .error (.missing index substitutions.length)
          | some s => do
            have := length_of_placeholder? h
            let out ← expandFrom substitutions
              (position + 1 + (cs.length - rest.length)) rest
            return s.toList ++ out
    else if c = '\x7d' then
      match cs with
      | '\x7d' :: rest => do
        let out ← expandFrom substitutions (position + 2) rest
        return '\x7d' :: out
      | _ => .error (.unmatched position)
    else do
      let out ← expandFrom substitutions (position + c.utf8Size) cs
      return c :: out
termination_by cs => cs.length
decreasing_by all_goals simp_all <;> omega

/-- Put substitutions into a template. They are inserted as they are, and never read again. -/
def expand (template : String) (substitutions : List String) : Except Fault String :=
  (expandFrom substitutions 0 template.toList).map String.ofList

end SqlCommands.Template
