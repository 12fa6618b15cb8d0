/-!
Reading a JSON list of strings. Anything else, or anything after the list but blanks, is refused, and
so are bare control characters and halves of surrogate pairs.
-/

namespace CaptureProbe.Json

def isBlank (c : Char) : Bool := c = ' ' || c = '\n' || c = '\t' || c = '\r'

def skipBlanks (cs : List Char) : List Char := cs.dropWhile isBlank

theorem skipBlanks_length (cs : List Char) : (skipBlanks cs).length ≤ cs.length :=
  (List.dropWhile_sublist _).length_le

def hexValue? (c : Char) : Option Nat :=
  if c.isDigit then some (c.toNat - '0'.toNat)
  else if 'a' ≤ c ∧ c ≤ 'f' then some (c.toNat - 'a'.toNat + 10)
  else if 'A' ≤ c ∧ c ≤ 'F' then some (c.toNat - 'A'.toNat + 10)
  else none

def codeUnit? : List Char → Option (Nat × List Char)
  | a :: b :: c :: d :: rest => do
    let a ← hexValue? a
    let b ← hexValue? b
    let c ← hexValue? c
    let d ← hexValue? d
    pure (((a * 16 + b) * 16 + c) * 16 + d, rest)
  | _ => none

theorem codeUnit?_length {cs rest : List Char} {n : Nat} (read : codeUnit? cs = some (n, rest)) :
    rest.length < cs.length := by
  unfold codeUnit? at read
  split at read
  · simp only [Option.bind_eq_bind, Option.bind_eq_some_iff, Option.pure_def, Option.some.injEq,
      Prod.mk.injEq] at read
    obtain ⟨_, _, _, _, _, _, _, _, _, same⟩ := read
    subst same
    simp only [List.length_cons]
    omega
  · cases read

def isHighSurrogate (n : Nat) : Bool := 0xD800 ≤ n && n < 0xDC00

def isLowSurrogate (n : Nat) : Bool := 0xDC00 ≤ n && n < 0xE000

/-- The character of a numbered escape. A high surrogate has to be followed by the escape of a low
one, and the two make one character. -/
def numbered? (cs : List Char) : Option (Char × List Char) :=
  match codeUnit? cs with
  | none => none
  | some (unit, rest) =>
    if isLowSurrogate unit then none
    else if isHighSurrogate unit then
      match rest with
      | '\\' :: 'u' :: rest =>
        match codeUnit? rest with
        | some (low, rest) =>
          if isLowSurrogate low then
            some (Char.ofNat (0x10000 + (unit - 0xD800) * 0x400 + (low - 0xDC00)), rest)
          else none
        | none => none
      | _ => none
    else some (Char.ofNat unit, rest)

theorem numbered?_length {cs rest : List Char} {c : Char}
    (read : numbered? cs = some (c, rest)) : rest.length < cs.length := by
  unfold numbered? at read
  split at read
  · cases read
  · rename_i unit tail first
    have shorter := codeUnit?_length first
    split at read
    · cases read
    · split at read
      · split at read
        · split at read
          · rename_i second
            split at read
            · simp only [Option.some.injEq, Prod.mk.injEq] at read
              obtain ⟨_, same⟩ := read
              subst same
              have shortest := codeUnit?_length second
              simp only [List.length_cons] at shorter
              omega
            · cases read
          · cases read
        · cases read
      · simp only [Option.some.injEq, Prod.mk.injEq] at read
        obtain ⟨_, same⟩ := read
        subst same
        exact shorter

def escape? : List Char → Option (Char × List Char)
  | '"' :: rest => some ('"', rest)
  | '\\' :: rest => some ('\\', rest)
  | '/' :: rest => some ('/', rest)
  | 'b' :: rest => some ('\x08', rest)
  | 'f' :: rest => some ('\x0c', rest)
  | 'n' :: rest => some ('\n', rest)
  | 'r' :: rest => some ('\r', rest)
  | 't' :: rest => some ('\t', rest)
  | 'u' :: rest => numbered? rest
  | _ => none

theorem escape?_length {cs rest : List Char} {c : Char} (read : escape? cs = some (c, rest)) :
    rest.length < cs.length := by
  unfold escape? at read
  split at read
  case h_9 => exact Nat.lt_succ_of_lt (numbered?_length read)
  case h_10 => cases read
  all_goals
    simp only [Option.some.injEq, Prod.mk.injEq] at read
    obtain ⟨_, same⟩ := read
    subst same
    simp

/-- The rest of a string after its opening quote, and what follows its closing quote. -/
def stringTail? (cs : List Char) : Option (List Char × List Char) :=
  match cs with
  | [] => none
  | '"' :: rest => some ([], rest)
  | '\\' :: rest =>
    match read : escape? rest with
    | some (c, after) =>
      have := escape?_length read
      (stringTail? after).map fun tail => (c :: tail.1, tail.2)
    | none => none
  | c :: rest =>
    if c.toNat < 0x20 then none else (stringTail? rest).map fun tail => (c :: tail.1, tail.2)
termination_by cs.length

theorem stringTail?_length {cs text rest : List Char}
    (read : stringTail? cs = some (text, rest)) : rest.length < cs.length := by
  fun_induction stringTail? cs generalizing text with
  | case1 => cases read
  | case2 after =>
    simp only [Option.some.injEq, Prod.mk.injEq] at read
    obtain ⟨_, same⟩ := read
    subst same
    simp
  | case3 after c tail escaped shorter ih =>
    obtain ⟨pair, found, same⟩ := Option.map_eq_some_iff.mp read
    have whole := found.trans (congrArg (fun tail => some (pair.1, tail)) (Prod.mk.inj same).2)
    have inner := ih whole
    simp only [List.length_cons]
    omega
  | case4 => cases read
  | case5 => cases read
  | case6 c after _ _ _ ih =>
    obtain ⟨pair, found, same⟩ := Option.map_eq_some_iff.mp read
    have whole := found.trans (congrArg (fun tail => some (pair.1, tail)) (Prod.mk.inj same).2)
    have inner := ih whole
    simp only [List.length_cons]
    omega

theorem nextMember_length {cs text after more : List Char}
    (read : stringTail? cs = some (text, after)) (next : skipBlanks after = ',' :: more) :
    (skipBlanks more).length < cs.length := by
  have tail := stringTail?_length read
  have comma := skipBlanks_length after
  have blank := skipBlanks_length more
  rw [next, List.length_cons] at comma
  omega

def members? (cs : List Char) : Option (List String × List Char) :=
  match cs with
  | '"' :: rest =>
    match read : stringTail? rest with
    | some (text, after) =>
      match next : skipBlanks after with
      | ',' :: more =>
        have := nextMember_length read next
        (members? (skipBlanks more)).map fun tail => (String.ofList text :: tail.1, tail.2)
      | ']' :: more => some ([String.ofList text], more)
      | _ => none
    | none => none
  | _ => none
termination_by cs.length

def strings? (text : String) : Option (List String) :=
  match skipBlanks text.toList with
  | '[' :: rest =>
    let inside := skipBlanks rest
    let read := match inside with
      | ']' :: after => some ([], after)
      | _ => members? inside
    match read with
    | some (items, after) => if skipBlanks after = [] then some items else none
    | none => none
  | _ => none

end CaptureProbe.Json
