/-! # References to variables

    A settings file may refer to variables as `${NAME}`.  References
    are replaced in one pass from left to right: what was inserted is not
    looked at again, and a reference to an unknown variable stays as it is. -/

namespace MediaDispatch.Substitution

/-- May a variable's name start with `c`? -/
def isNameStart (c : Char) : Bool :=
  ('A' ≤ c && c ≤ 'Z') || ('a' ≤ c && c ≤ 'z') || c = '_'

/-- May `c` stand further on in a variable's name? -/
def isNameChar (c : Char) : Bool :=
  isNameStart c || ('0' ≤ c && c ≤ '9')

/-- The reference to a name. -/
def reference (name : List Char) : List Char :=
  '$' :: '\x7b' :: (name ++ ['\x7d'])

/-- Does a text start with a reference?  Returns its name and what follows
    it. -/
def takeReference? : List Char → Option (List Char × List Char)
  | '$' :: '\x7b' :: c :: body =>
    if isNameStart c then
      match body.dropWhile isNameChar with
      | '\x7d' :: rest => some (c :: body.takeWhile isNameChar, rest)
      | _ => none
    else none
  | _ => none

/-- What follows a reference is shorter than the text. -/
theorem takeReference?_length {s name rest : List Char}
    (h : takeReference? s = some (name, rest)) : rest.length < s.length := by
  unfold takeReference? at h
  split at h
  · rename_i c body
    split at h
    · split at h
      · rename_i tail heq
        have hle := (body.dropWhile_sublist isNameChar).length_le
        simp only [Option.some.injEq, Prod.mk.injEq] at h
        obtain ⟨_, rfl⟩ := h
        rw [heq] at hle
        simp only [List.length_cons] at hle ⊢
        omega
      · exact absurd h (by simp)
    · exact absurd h (by simp)
  · exact absurd h (by simp)

/-- The text that a reference stands for. -/
def valueOf (env : List (String × String)) (name : List Char) : List Char :=
  match env.lookup (String.ofList name) with
  | some value => value.toList
  | none => reference name

/-- Replaces every reference in a text. -/
def expand (env : List (String × String)) : List Char → List Char
  | [] => []
  | c :: rest =>
    match h : takeReference? (c :: rest) with
    | some (name, tail) =>
      have := takeReference?_length h
      valueOf env name ++ expand env tail
    | none => c :: expand env rest
termination_by s => s.length
decreasing_by
  · assumption
  · exact Nat.lt_succ_self rest.length

/-- Replaces every reference in a string. -/
def substitute (env : List (String × String)) (content : String) : String :=
  String.ofList (expand env content.toList)

end MediaDispatch.Substitution
