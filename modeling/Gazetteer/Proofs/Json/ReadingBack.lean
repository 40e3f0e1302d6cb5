import Gazetteer.Json.Reader

/-!
# Reading what was written

Whatever a text contains, it is read back from the string that is written for it: quotes,
backslashes and controls are escaped, and each escape stands for the character it was made of
(`text?_quoted`). Values made of strings, arrays and objects are then read back because their parts
are (`ReadBack`). The reader may take one step for each character it is given, and that is enough,
because no value needs more steps than it has characters.
-/

set_option autoImplicit false

namespace Gazetteer.Json

/-! ## Characters and their escapes -/

/-- What is written for a character: a letter or a number behind a backslash, or the character. -/
inductive Escaped (c : Char) : List Char → Prop
  | letter {l : Char} (ne : l ≠ 'u') (stands : simpleEscape? l = some c) : Escaped c ['\\', l]
  | code {a b : Char} (stands : hex4? '0' '0' a b = some c.toNat) (control : c.toNat < 32) :
    Escaped c ['\\', 'u', '0', '0', a, b]
  | plain (noQuote : c ≠ '"') (noBackslash : c ≠ '\\') (printable : 32 ≤ c.toNat) : Escaped c [c]

theorem Escaped.ite {c : Char} {p : Prop} [Decidable p] {written other : List Char}
    (h : p → Escaped c written) (h' : ¬ p → Escaped c other) :
    Escaped c (if p then written else other) := by
  by_cases hp : p
  · rw [if_pos hp]
    exact h hp
  · rw [if_neg hp]
    exact h' hp

theorem escaped_escapeChar (c : Char) : Escaped c (escapeChar c) := by
  have hlow : ∀ n < 16, hex4? '0' '0' '0' (Nat.digitChar n) = some n := by decide
  have hhigh : ∀ n < 16, hex4? '0' '0' '1' (Nat.digitChar n) = some (16 + n) := by decide
  refine .ite (fun h => .letter (by decide) (by rw [h]; rfl)) fun hquote => ?_
  refine .ite (fun h => .letter (by decide) (by rw [h]; rfl)) fun hbackslash => ?_
  refine .ite (fun h => .letter (by decide) (by rw [h]; rfl)) fun _ => ?_
  refine .ite (fun h => .letter (by decide) (by rw [h]; rfl)) fun _ => ?_
  refine .ite (fun h => .letter (by decide) (by rw [h]; rfl)) fun _ => ?_
  refine .ite (fun h => .letter (by decide) (by rw [← Char.ofNat_toNat c, h]; rfl)) fun _ => ?_
  refine .ite (fun h => .letter (by decide) (by rw [← Char.ofNat_toNat c, h]; rfl)) fun _ => ?_
  refine .ite (fun h => .code (hlow _ h) (by omega)) fun hfirst => ?_
  refine .ite (fun h => .code ?_ h) fun hprintable => .plain hquote hbackslash (by omega)
  rw [hhigh _ (by omega)]
  congr 1
  omega

/-! ## Strings -/

/-- What is read when one more part stands in front. -/
def withPart (part : StringPart) :
    Option (List StringPart × List Char) → Option (List StringPart × List Char) :=
  Option.map (Prod.map (part :: ·) id)

theorem stringParts?_letter {letter c : Char} (hletter : letter ≠ 'u')
    (h : simpleEscape? letter = some c) (tail : List Char) :
    stringParts? ('\\' :: letter :: tail) = withPart (.char c) (stringParts? tail) := by
  rw [stringParts?, h]
  · cases stringParts? tail <;> rfl
  · rintro _ _ _ _ _ rfl
    exact absurd rfl hletter

theorem stringParts?_code {a b c d : Char} {n : Nat} (h : hex4? a b c d = some n)
    (tail : List Char) :
    stringParts? ('\\' :: 'u' :: a :: b :: c :: d :: tail) =
      withPart (.code n) (stringParts? tail) := by
  rw [stringParts?, h]
  cases stringParts? tail <;> rfl

theorem stringParts?_char {c : Char} (hquote : c ≠ '"') (hbackslash : c ≠ '\\')
    (hprintable : 32 ≤ c.toNat) (tail : List Char) :
    stringParts? (c :: tail) = withPart (.char c) (stringParts? tail) := by
  rw [stringParts?, if_neg (by omega)]
  · cases stringParts? tail <;> rfl
  · exact hquote
  · exact fun _ _ _ _ _ h => absurd h hbackslash
  · exact fun _ _ h => absurd h hbackslash

/-- A number of 16 bits that is not half of a pair stands for its character. -/
theorem textOfParts?_code {n : Nat} (hhigh : isHighHalf n = false) (hlow : isLowHalf n = false)
    (parts : List StringPart) :
    textOfParts? (.code n :: parts) = (textOfParts? parts).map (Char.ofNat n :: ·) := by
  rcases parts with _ | ⟨_ | _, parts⟩ <;> simp [textOfParts?, hhigh, hlow]

/-- One part is read from what is written for a character, and it stands for the character. -/
theorem Escaped.exists_part {c : Char} {written : List Char} (h : Escaped c written) :
    ∃ part : StringPart,
      (∀ parts, textOfParts? (part :: parts) = (textOfParts? parts).map (c :: ·)) ∧
        ∀ tail, stringParts? (written ++ tail) = withPart part (stringParts? tail) := by
  cases h with
  | letter ne stands => exact ⟨.char c, fun _ => rfl, stringParts?_letter ne stands⟩
  | code stands control =>
    refine ⟨.code c.toNat, fun parts => ?_, stringParts?_code stands⟩
    rw [textOfParts?_code (by simp [isHighHalf]; omega) (by simp [isLowHalf]; omega),
      Char.ofNat_toNat]
  | plain noQuote noBackslash printable =>
    exact ⟨.char c, fun _ => rfl, stringParts?_char noQuote noBackslash printable⟩

theorem exists_parts (cs rest : List Char) : ∃ parts,
    stringParts? (cs.flatMap escapeChar ++ '"' :: rest) = some (parts, rest) ∧
      textOfParts? parts = some cs := by
  induction cs with
  | nil => exact ⟨[], rfl, rfl⟩
  | cons c cs ih =>
    obtain ⟨parts, hparts, htext⟩ := ih
    obtain ⟨part, hstands, hread⟩ := (escaped_escapeChar c).exists_part
    refine ⟨part :: parts, ?_, ?_⟩
    · rw [List.flatMap_cons, List.append_assoc, hread, hparts]
      rfl
    · rw [hstands, htext]
      rfl

/-- **Any text is read back from the string that is written for it.** -/
theorem text?_quoted (s : String) (rest : List Char) :
    text? (s.toList.flatMap escapeChar ++ '"' :: rest) = some (some s, rest) := by
  obtain ⟨parts, hparts, htext⟩ := exists_parts s.toList rest
  simp only [text?, hparts, Option.map_some, htext, String.ofList_toList]

theorem quoteText_append (s : String) (rest : List Char) :
    quoteText (some s) ++ rest = '"' :: (s.toList.flatMap escapeChar ++ '"' :: rest) := by
  simp [quoteText, quote]

/-! ## Values -/

theorem skipSpace_cons {c : Char} (h : isSpace c = false) (rest : List Char) :
    skipSpace (c :: rest) = c :: rest := by
  rw [skipSpace, List.dropWhile_cons_of_neg (by simp [h])]

/--
A value that is read back from what is written for it, whatever follows. As many steps as there are
characters are enough.
-/
structure ReadBack (j : Json) : Prop where
  /-- What is written begins with neither a blank nor the end of an array. -/
  begins : ∃ c cs, j.compactChars = c :: cs ∧ isSpace c = false ∧ c ≠ ']'
  reads : ∀ {fuel : Nat}, j.compactChars.length ≤ fuel → ∀ rest,
    value? fuel (j.compactChars ++ rest) = some (j, rest)

/-! ### What a value begins with -/

theorem value?_string (fuel : Nat) (rest : List Char) :
    value? (fuel + 1) ('"' :: rest) = (text? rest).map (Prod.map .string id) := rfl

/-- An array whose first item does not look like its end is read item by item. -/
theorem value?_array {c : Char} (hblank : isSpace c = false) (hend : c ≠ ']') (fuel : Nat)
    (more : List Char) :
    value? (fuel + 1) ('[' :: c :: more) =
      (items? fuel (c :: more)).map (Prod.map .array id) := by
  rw [value?, skipSpace_cons rfl]
  simp only [skipSpace_cons hblank]
  split
  · rename_i heq
    exact absurd (List.cons.inj heq).1 hend
  · rfl

/-- An object whose first member has a name is read member by member. -/
theorem value?_object (fuel : Nat) (more : List Char) :
    value? (fuel + 1) ('\x7b' :: '"' :: more) =
      (members? fuel ('"' :: more)).map (Prod.map .object id) := rfl

/-! ### Items and members -/

section Steps

variable {fuel : Nat} {cs tail rest : List Char} {item : Json} {name : Option String}

theorem items?_last (h : value? fuel cs = some (item, ']' :: rest)) :
    items? (fuel + 1) cs = some ([item], rest) := by
  show (value? fuel cs).bind _ = _
  rw [h]
  rfl

theorem items?_more (h : value? fuel cs = some (item, ',' :: rest)) :
    items? (fuel + 1) cs = (items? fuel rest).map (Prod.map (item :: ·) id) := by
  show (value? fuel cs).bind _ = _
  rw [h]
  show (items? fuel rest).bind _ = _
  cases items? fuel rest <;> rfl

theorem members?_last (hname : text? cs = some (name, ':' :: tail))
    (h : value? fuel tail = some (item, '\x7d' :: rest)) :
    members? (fuel + 1) ('"' :: cs) = some ([(name, item)], rest) := by
  show (text? cs).bind _ = _
  rw [hname]
  show (value? fuel tail).bind _ = _
  rw [h]
  rfl

theorem members?_more (hname : text? cs = some (name, ':' :: tail))
    (h : value? fuel tail = some (item, ',' :: rest)) :
    members? (fuel + 1) ('"' :: cs) =
      (members? fuel rest).map (Prod.map ((name, item) :: ·) id) := by
  show (text? cs).bind _ = _
  rw [hname]
  show (value? fuel tail).bind _ = _
  rw [h]
  show (members? fuel rest).bind _ = _
  cases members? fuel rest <;> rfl

end Steps

/-! ### Values that come back -/

/-- It is enough to know what is read behind the first character, at the cost of one step. -/
theorem readBack_of_cons {j : Json} {c : Char} {cs : List Char}
    (hwritten : j.compactChars = c :: cs) (hblank : isSpace c = false) (hend : c ≠ ']')
    (h : ∀ {fuel : Nat}, cs.length ≤ fuel → ∀ rest,
      value? (fuel + 1) (c :: (cs ++ rest)) = some (j, rest)) : ReadBack j where
  begins := ⟨c, cs, hwritten, hblank, hend⟩
  reads := by
    intro fuel hfuel rest
    rw [hwritten, List.length_cons] at hfuel
    obtain ⟨fuel, rfl⟩ := Nat.exists_eq_add_one.mpr (Nat.zero_lt_of_lt hfuel)
    rw [hwritten]
    exact h (Nat.le_of_succ_le_succ hfuel) rest

theorem readBack_ofText (s : String) : ReadBack (ofText s) := by
  have hwritten : (ofText s).compactChars = '"' :: (s.toList.flatMap escapeChar ++ ['"']) := rfl
  refine readBack_of_cons hwritten rfl (by decide) fun {fuel} _ rest => ?_
  rw [List.append_assoc, List.singleton_append, value?_string, text?_quoted]
  rfl

/-- Items are read one after the other, up to the end of the array. -/
theorem items?_written {items : List Json} :
    ∀ {item : Json}, ReadBack item → (∀ j ∈ items, ReadBack j) → ∀ {fuel : Nat},
      (item.compactChars ++ compactItems items).length ≤ fuel → ∀ rest,
        items? fuel (item.compactChars ++ (compactItems items ++ rest)) =
          some (item :: items, rest) := by
  induction items with
  | nil =>
    intro item hitem _ fuel hfuel rest
    have hend : compactItems [] = [']'] := by rw [compactItems]
    rw [hend, List.length_append, List.length_singleton] at hfuel
    obtain ⟨fuel, rfl⟩ := Nat.exists_eq_add_one.mpr (show 0 < fuel by omega)
    rw [hend]
    exact items?_last (hitem.reads (by omega) _)
  | cons next items ih =>
    intro item hitem hitems fuel hfuel rest
    obtain ⟨hnext, hrest⟩ := List.forall_mem_cons.mp hitems
    have hmore : compactItems (next :: items) =
        ',' :: (next.compactChars ++ compactItems items) := by rw [compactItems]; rfl
    rw [hmore, List.length_append, List.length_cons] at hfuel
    obtain ⟨fuel, rfl⟩ := Nat.exists_eq_add_one.mpr (show 0 < fuel by omega)
    rw [hmore, List.cons_append, List.append_assoc, items?_more (hitem.reads (by omega) _),
      ih hnext hrest (by omega)]
    rfl

theorem readBack_array {items : List Json} (h : ∀ j ∈ items, ReadBack j) :
    ReadBack (.array items) := by
  cases items with
  | nil =>
    have hwritten : (array []).compactChars = ['[', ']'] := by rw [compactChars]
    exact readBack_of_cons hwritten rfl (by decide) fun _ _ => rfl
  | cons item items =>
    obtain ⟨hitem, hitems⟩ := List.forall_mem_cons.mp h
    have hwritten : (array (item :: items)).compactChars =
        '[' :: (item.compactChars ++ compactItems items) := by rw [compactChars]; rfl
    refine readBack_of_cons hwritten rfl (by decide) fun {fuel} hfuel rest => ?_
    have hread := items?_written hitem hitems hfuel rest
    obtain ⟨c, cs, hbegins, hblank, hend⟩ := hitem.begins
    rw [hbegins, List.cons_append] at hread
    rw [hbegins, List.append_assoc, List.cons_append, value?_array hblank hend, hread]
    rfl

/-- A member that is read back: its name is a text, and its value is read back. -/
structure ReadBackMember (member : Option String × Json) : Prop where
  named : ∃ name, member.1 = some name
  value : ReadBack member.2

/-- What is written for a member and those behind it, without the comma in front. -/
def memberChars (member : Option String × Json) (members : List (Option String × Json)) :
    List Char :=
  quoteText member.1 ++ ':' :: (member.2.compactChars ++ compactMembers members)

/-- A member in front of others, with the opening quote taken off its name. -/
theorem memberChars_append (name : String) (value : Json)
    (members : List (Option String × Json)) (rest : List Char) :
    memberChars (some name, value) members ++ rest =
      '"' :: (name.toList.flatMap escapeChar ++
        '"' :: ':' :: (value.compactChars ++ (compactMembers members ++ rest))) := by
  rw [memberChars, List.append_assoc, quoteText_append]
  simp

theorem length_lt_memberChars (member : Option String × Json)
    (members : List (Option String × Json)) :
    member.2.compactChars.length + (compactMembers members).length <
      (memberChars member members).length := by
  rw [memberChars, List.length_append, List.length_cons, List.length_append]
  omega

/-- Members are read one after the other, up to the end of the object. -/
theorem members?_written {members : List (Option String × Json)} :
    ∀ {member : Option String × Json}, ReadBackMember member →
      (∀ m ∈ members, ReadBackMember m) → ∀ {fuel : Nat},
      (memberChars member members).length ≤ fuel → ∀ rest,
        members? fuel (memberChars member members ++ rest) = some (member :: members, rest) := by
  induction members with
  | nil =>
    rintro ⟨_, value⟩ ⟨⟨name, rfl⟩, hvalue⟩ _ fuel hfuel rest
    have hend : compactMembers [] = ['\x7d'] := by rw [compactMembers]
    have hshorter := length_lt_memberChars (some name, value) []
    obtain ⟨fuel, rfl⟩ := Nat.exists_eq_add_one.mpr (show 0 < fuel by omega)
    rw [memberChars_append, hend]
    exact members?_last (text?_quoted name _) (hvalue.reads (by omega) _)
  | cons next members ih =>
    rintro ⟨_, value⟩ ⟨⟨name, rfl⟩, hvalue⟩ hmembers fuel hfuel rest
    obtain ⟨hnext, hrest⟩ := List.forall_mem_cons.mp hmembers
    have hmore : compactMembers (next :: members) = ',' :: memberChars next members := by
      rw [compactMembers, memberChars]
      simp
    have hshorter := length_lt_memberChars (some name, value) (next :: members)
    rw [hmore, List.length_cons] at hshorter
    obtain ⟨fuel, rfl⟩ := Nat.exists_eq_add_one.mpr (show 0 < fuel by omega)
    rw [memberChars_append, hmore, List.cons_append,
      members?_more (text?_quoted name _) (hvalue.reads (by omega) _), ih hnext hrest (by omega)]
    rfl

theorem readBack_object {members : List (Option String × Json)}
    (h : ∀ m ∈ members, ReadBackMember m) : ReadBack (.object members) := by
  cases members with
  | nil =>
    have hwritten : (object []).compactChars = ['\x7b', '\x7d'] := by rw [compactChars]
    exact readBack_of_cons hwritten rfl (by decide) fun _ _ => rfl
  | cons member members =>
    obtain ⟨hmember, hmembers⟩ := List.forall_mem_cons.mp h
    have hwritten : (object (member :: members)).compactChars =
        '\x7b' :: memberChars member members := by
      rw [compactChars, memberChars]
      simp
    refine readBack_of_cons hwritten rfl (by decide) fun {fuel} hfuel rest => ?_
    have hread := members?_written hmember hmembers hfuel rest
    obtain ⟨_, value⟩ := member
    obtain ⟨name, rfl⟩ := hmember.named
    rw [memberChars_append] at hread ⊢
    rw [value?_object, hread]
    rfl

/-- **What is read back from its characters is read back from its text.** -/
theorem ReadBack.ofString?_compact {j : Json} (h : ReadBack j) : ofString? j.compact = some j := by
  have hread := h.reads (Nat.le_succ j.compactChars.length) []
  rw [List.append_nil] at hread
  rw [ofString?, compact, String.toList_ofList, hread]
  rfl

end Gazetteer.Json
