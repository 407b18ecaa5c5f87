import FrameStatus.Json.Printer
import FrameStatus.Proofs.Json.Reader
import FrameStatus.Proofs.Text.Numeral
import Mathlib.Data.List.Basic

/-!
# Reading what the printers write

Both printers are one that puts white space where its layout says. What it writes is read back,
whatever follows that does not continue a numeral.
-/

namespace FrameStatus.Json

/-! ## White space -/

theorem dropWhile_blanks {blanks tail : List Char} {c : Char} (hblanks : ∀ b ∈ blanks, isBlank b)
    (hc : isBlank c = false) : (blanks ++ c :: tail).dropWhile isBlank = c :: tail := by
  rw [List.dropWhile_append_of_pos hblanks, List.dropWhile_cons_of_neg (by simp [hc])]

/-! ## Strings -/

/-- A control character is read back from its code unit. -/
theorem readUnits?_control {c : Char} (hc : c.toNat < 0x20) (rest : List Char) :
    readUnits? (['0', '0'] ++ Text.hexByte (UInt8.ofNat c.toNat) ++ rest) = some (c, rest) := by
  have hzero : Text.hexValue? '0' = some 0 := by decide
  have hhigh := Text.hexValue?_digitChar (by omega : c.toNat / 16 < 16)
  have hlow := Text.hexValue?_digitChar (by omega : c.toNat % 16 < 16)
  have hbyte : (UInt8.ofNat c.toNat).toNat = c.toNat :=
    UInt8.toNat_ofNat_of_lt (by show c.toNat < 256; omega)
  have hunit : ((0 * 16 + 0) * 16 + c.toNat / 16) * 16 + c.toNat % 16 = c.toNat := by omega
  have hsmall : c.toNat < 0xD800 ∨ 0xE000 ≤ c.toNat := .inl (by omega)
  simp only [Text.hexByte, hbyte, List.cons_append, List.nil_append, readUnits?, readUnit?, hzero,
    hhigh, hlow, Option.bind_eq_bind, Option.bind_some, Option.pure_def, hunit, if_pos hsmall,
    Char.ofNat_toNat]

theorem readChar?_escape (c : Char) (rest : List Char) :
    readChar? (escape c ++ rest) = some (c, rest) := by
  unfold escape
  split
  next => rfl
  next => rfl
  next => rfl
  next => rfl
  next => rfl
  next => rfl
  next => rfl
  next =>
    split
    next hcontrol => exact readUnits?_control hcontrol rest
    next hcontrol =>
      rw [List.singleton_append, readChar?, if_neg hcontrol]
      assumption

/-- No character of a string is taken for the quote that ends it. -/
theorem escape_append_ne (c : Char) (rest tail : List Char) : escape c ++ rest ≠ '"' :: tail := by
  intro h
  have hread := readChar?_escape c rest
  rw [h] at hread
  obtain ⟨rfl, -⟩ := Prod.mk.inj (Option.some.inj hread)
  cases h

theorem readChars?_escape {fuel : Nat} {text : List Char} (hfuel : text.length ≤ fuel)
    (rest : List Char) :
    readChars? fuel (text.flatMap escape ++ '"' :: rest) = some (text, rest) := by
  induction text generalizing fuel with
  | nil => rw [List.flatMap_nil, List.nil_append, readChars?]
  | cons c text ih =>
      obtain ⟨fuel, rfl⟩ := Nat.exists_eq_add_one_of_ne_zero (Nat.ne_zero_of_lt hfuel)
      rw [List.flatMap_cons, List.append_assoc, readChars?, readChar?_escape]
      · simp only [Option.bind_eq_bind, Option.bind_some, ih (Nat.le_of_succ_le_succ hfuel),
          Option.pure_def]
      · exact escape_append_ne c _

theorem length_le_flatMap_escape (text : List Char) :
    text.length ≤ (text.flatMap escape).length := by
  induction text with
  | nil => exact Nat.le_refl 0
  | cons c text ih =>
      have hne : (escape c).length ≠ 0 := by
        intro hnil
        have hread := readChar?_escape c []
        rw [List.eq_nil_of_length_eq_zero hnil] at hread
        cases hread
      rw [List.flatMap_cons, List.length_append, List.length_cons]
      omega

/-- A string is read back from behind the quote that begins it. -/
theorem readText?_quote (text : String) :
    ∃ tail, (quote text).toList = '"' :: tail ∧
      ∀ rest, readText? (tail ++ rest) = some (text, rest) := by
  refine ⟨text.toList.flatMap escape ++ ['"'], by rw [quote, String.toList_ofList]; rfl, ?_⟩
  intro rest
  have hlength := length_le_flatMap_escape text.toList
  rw [readText?, List.append_assoc, List.singleton_append, readChars?_escape]
  · simp only [Option.bind_eq_bind, Option.bind_some, Option.pure_def, String.ofList_toList]
  · rw [List.length_append]
    omega

/-! ## Numerals -/

/-- What follows does not continue a numeral. -/
def EndsNumeral (rest : List Char) : Prop :=
  ∀ c ∈ rest.head?, c.isDigit = false ∧ c ∉ ['.', 'e', 'E']

theorem isDigit_of_mem_toDigits {n : Nat} : ∀ c ∈ Nat.toDigits 10 n, c.isDigit = true :=
  fun _ hc => Nat.isDigit_of_mem_toDigits (by decide) (by decide) hc

/-- A numeral begins with a digit. -/
theorem exists_decimal_eq (n : Nat) :
    ∃ c tail, (Text.decimal n).toList = c :: tail ∧ c.isDigit = true := by
  obtain ⟨c, tail, hsplit⟩ := List.exists_cons_of_ne_nil (Nat.toDigits_ne_nil (b := 10) (n := n))
  refine ⟨c, tail, by rw [Text.decimal, String.toList_ofList, hsplit], ?_⟩
  exact isDigit_of_mem_toDigits c (by rw [hsplit]; exact List.mem_cons_self)

/-- A numeral has no leading zero. -/
theorem toDigits_eq_of_head? {n : Nat} (h : (Nat.toDigits 10 n).head? = some '0') :
    Nat.toDigits 10 n = ['0'] := by
  induction n using Nat.strongRecOn with
  | _ n ih =>
      rw [Nat.toDigits_eq_if (by decide)] at h ⊢
      split at h
      next hless =>
        rw [if_pos hless, Option.some.inj h]
      next hmore =>
        rw [List.head?_append_of_ne_nil _ Nat.toDigits_ne_nil] at h
        have hfront := ih (n / 10) (Nat.div_lt_self (by omega) (by decide)) h
        have hvalue := Text.decimalValue?_toDigits (n / 10)
        rw [hfront] at hvalue
        have hzero : 0 = n / 10 := Option.some.inj hvalue
        omega

theorem readNumber?_decimal (n : Nat) {rest : List Char} (hrest : EndsNumeral rest) :
    readNumber? ((Text.decimal n).toList ++ rest) = some (n, rest) := by
  have hsplit : rest.takeWhile Char.isDigit = [] ∧ rest.dropWhile Char.isDigit = rest := by
    cases rest with
    | nil => exact ⟨rfl, rfl⟩
    | cons c rest =>
        have hc := (hrest c rfl).1
        exact ⟨List.takeWhile_cons_of_neg (by simp [hc]), List.dropWhile_cons_of_neg (by simp [hc])⟩
  have hlegal : ¬((Nat.toDigits 10 n).head? = some '0' ∧ Nat.toDigits 10 n ≠ ['0'] ∨
      rest.head?.any (['.', 'e', 'E'].contains ·) = true) := by
    rintro (⟨hhead, hne⟩ | hany)
    · exact hne (toDigits_eq_of_head? hhead)
    · obtain ⟨c, hc, hmem⟩ := (Option.any_eq_true _ _).mp hany
      exact (hrest c hc).2 (List.contains_iff_mem.mp hmem)
  rw [readNumber?, Text.decimal, String.toList_ofList,
    List.takeWhile_append_of_pos isDigit_of_mem_toDigits,
    List.dropWhile_append_of_pos isDigit_of_mem_toDigits, hsplit.1, hsplit.2, List.append_nil,
    if_neg hlegal, Text.decimalValue?_toDigits]
  rfl

/-! ## One printer -/

/-- Where a printer puts white space: in front of what stands on a line of its own, by its level,
and behind a colon. -/
structure Layout where
  line : Nat → List Char
  gap : List Char

namespace Layout

def compact : Layout :=
  ⟨fun _ => [], []⟩

def pretty : Layout :=
  ⟨fun level => (newLine level).toList, [' ']⟩

/-- There is nothing but white space in the layout. -/
structure Blank (layout : Layout) : Prop where
  line : ∀ level, ∀ c ∈ layout.line level, isBlank c
  gap : ∀ c ∈ layout.gap, isBlank c

theorem blank_compact : compact.Blank :=
  ⟨fun _ => by simp [compact], by simp [compact]⟩

theorem blank_pretty : pretty.Blank := by
  constructor
  · intro level c hc
    simp only [pretty, newLine, String.toList_ofList, List.mem_cons, List.mem_replicate] at hc
    rcases hc with rfl | ⟨-, rfl⟩ <;> rfl
  · simp [pretty, isBlank]

end Layout

mutual

/-- The text of a value that starts at a level. -/
def write (layout : Layout) (level : Nat) : Json → List Char
  | number value => (Text.decimal value).toList
  | bool value => (if value then "true" else "false").toList
  | string text => (quote text).toList
  | array items =>
      if items.isEmpty then ['[', ']']
      else '[' :: (writeItems layout level items ++ (layout.line level ++ [']']))
  | object members =>
      if members.isEmpty then ['{', '}']
      else '{' :: (writeMembers layout level members ++ (layout.line level ++ ['}']))

/-- Items, each on a line of the next level. -/
def writeItems (layout : Layout) (level : Nat) : List Json → List Char
  | [] => []
  | item :: rest =>
      layout.line (level + 1) ++ (write layout (level + 1) item ++
        if rest.isEmpty then [] else ',' :: writeItems layout level rest)

/-- Members, each on a line of the next level. -/
def writeMembers (layout : Layout) (level : Nat) : List (String × Json) → List Char
  | [] => []
  | (key, value) :: rest =>
      layout.line (level + 1) ++ ((quote key).toList ++ ':' :: (layout.gap ++
        (write layout (level + 1) value ++
          if rest.isEmpty then [] else ',' :: writeMembers layout level rest)))

end

mutual

theorem toList_compact (level : Nat) :
    ∀ value, (compact value).toList = write .compact level value
  | number value => by rw [compact, write]
  | bool value => by rw [compact, write]
  | string text => by rw [compact, write]
  | array items => by
      have hitems := toList_compactItems level items
      rw [compact, write]
      cases items with
      | nil => rfl
      | cons item rest => simp [hitems, Layout.compact]
  | object members => by
      have hmembers := toList_compactMembers level members
      rw [compact, write]
      cases members with
      | nil => rfl
      | cons member rest => simp [hmembers, Layout.compact]

theorem toList_compactItems (level : Nat) :
    ∀ items, (compactItems items).toList = writeItems .compact level items
  | [] => by rw [compactItems, writeItems]; rfl
  | item :: rest => by
      have hitem := toList_compact (level + 1) item
      have hrest := toList_compactItems level rest
      rw [compactItems, writeItems]
      cases rest <;> simp [hitem, hrest, Layout.compact]

theorem toList_compactMembers (level : Nat) :
    ∀ members, (compactMembers members).toList = writeMembers .compact level members
  | [] => by rw [compactMembers, writeMembers]; rfl
  | (key, value) :: rest => by
      have hvalue := toList_compact (level + 1) value
      have hrest := toList_compactMembers level rest
      rw [compactMembers, writeMembers]
      cases rest <;> simp [hvalue, hrest, Layout.compact]

end

mutual

theorem toList_pretty (level : Nat) :
    ∀ value, (pretty level value).toList = write .pretty level value
  | number value => by rw [pretty, write]
  | bool value => by rw [pretty, write]
  | string text => by rw [pretty, write]
  | array items => by
      have hitems := toList_prettyItems level items
      rw [pretty, write]
      cases items with
      | nil => simp
      | cons item rest => simp [hitems, Layout.pretty]
  | object members => by
      have hmembers := toList_prettyMembers level members
      rw [pretty, write]
      cases members with
      | nil => simp
      | cons member rest => simp [hmembers, Layout.pretty]

theorem toList_prettyItems (level : Nat) :
    ∀ items, (prettyItems level items).toList = writeItems .pretty level items
  | [] => by rw [prettyItems, writeItems]; rfl
  | item :: rest => by
      have hitem := toList_pretty (level + 1) item
      have hrest := toList_prettyItems level rest
      rw [prettyItems, writeItems]
      cases rest <;> simp [hitem, hrest, Layout.pretty]

theorem toList_prettyMembers (level : Nat) :
    ∀ members, (prettyMembers level members).toList = writeMembers .pretty level members
  | [] => by rw [prettyMembers, writeMembers]; rfl
  | (key, value) :: rest => by
      have hvalue := toList_pretty (level + 1) value
      have hrest := toList_prettyMembers level rest
      rw [prettyMembers, writeMembers]
      cases rest <;> simp [hvalue, hrest, Layout.pretty]

end

/-! ## Reading back -/

theorem endsNumeral_of_blanks {blanks rest : List Char} {c : Char}
    (hblanks : ∀ b ∈ blanks, isBlank b) (hc : c.isDigit = false ∧ c ∉ ['.', 'e', 'E']) :
    EndsNumeral (blanks ++ c :: rest) := by
  intro d hd
  cases blanks with
  | nil => exact Option.some.inj hd ▸ hc
  | cons b blanks =>
      have hb := hblanks b List.mem_cons_self
      simp only [isBlank, Bool.or_eq_true, beq_iff_eq] at hb
      obtain rfl : b = d := Option.some.inj hd
      rcases hb with ((rfl | rfl) | rfl) | rfl <;> decide

theorem endsNumeral_comma (rest : List Char) : EndsNumeral (',' :: rest) := by
  intro c hc
  obtain rfl : ',' = c := Option.some.inj hc
  decide

/-- The text of a value begins with no white space, and not as the end of an array does. -/
theorem exists_write_eq (layout : Layout) (level : Nat) (value : Json) :
    ∃ c tail, write layout level value = c :: tail ∧ isBlank c = false ∧ c ≠ ']' := by
  cases value with
  | number value =>
      obtain ⟨c, tail, hsplit, hc⟩ := exists_decimal_eq value
      refine ⟨c, tail, by rw [write, hsplit], ?_, ?_⟩
      · cases hblank : isBlank c with
        | false => rfl
        | true =>
            simp only [isBlank, Bool.or_eq_true, beq_iff_eq] at hblank
            rcases hblank with ((rfl | rfl) | rfl) | rfl <;> exact absurd hc (by decide)
      · rintro rfl
        exact absurd hc (by decide)
  | bool value => cases value <;> exact ⟨_, _, rfl, by decide, by decide⟩
  | string text =>
      obtain ⟨tail, hquote, -⟩ := readText?_quote text
      exact ⟨'"', tail, by rw [write, hquote], by decide, by decide⟩
  | array items =>
      rw [write]
      split <;> exact ⟨'[', _, rfl, by decide, by decide⟩
  | object members =>
      rw [write]
      split <;> exact ⟨'{', _, rfl, by decide, by decide⟩

theorem readValue?_number {fuel n : Nat} {text rest : List Char} (hrest : EndsNumeral rest)
    (htext : text.dropWhile isBlank = (Text.decimal n).toList ++ rest) :
    readValue? (fuel + 1) text = some (number n, rest) := by
  have hread := readNumber?_decimal n hrest
  obtain ⟨c, tail, hsplit, hc⟩ := exists_decimal_eq n
  rw [hsplit, List.cons_append] at htext hread
  rw [readValue?, htext]
  -- No digit begins a value of another kind.
  split
  case h_6 => rw [hread]; rfl
  all_goals
    next h =>
      obtain rfl := (List.cons.inj h).1
      exact absurd hc (by decide)

theorem dropWhile_writeItems_ne {layout : Layout} (hlayout : layout.Blank) {level : Nat}
    (item : Json) (items : List Json) (rest after : List Char) :
    (writeItems layout level (item :: items) ++ rest).dropWhile isBlank ≠ ']' :: after := by
  obtain ⟨c, tail, hfirst, hblank, hclose⟩ := exists_write_eq layout (level + 1) item
  rw [writeItems, hfirst, List.append_assoc, List.append_assoc, List.cons_append,
    dropWhile_blanks (hlayout.line _) hblank]
  exact fun h => hclose (List.cons.inj h).1

/-- The first member begins with the quote of its key. -/
theorem dropWhile_writeMembers {layout : Layout} (hlayout : layout.Blank) (level : Nat)
    {key : String} {tail : List Char} (hquote : (quote key).toList = '"' :: tail) (value : Json)
    (members : List (String × Json)) (rest : List Char) :
    (writeMembers layout level ((key, value) :: members) ++ rest).dropWhile isBlank =
      '"' :: (tail ++ ':' :: (layout.gap ++ (write layout (level + 1) value ++
        ((if members.isEmpty then [] else ',' :: writeMembers layout level members) ++
          rest)))) := by
  rw [writeMembers, hquote, List.append_assoc, List.cons_append, List.cons_append,
    dropWhile_blanks (hlayout.line _) (by decide)]
  simp only [List.append_assoc, List.cons_append]

mutual

/-- The text of a value is read back, with white space in front of it and whatever follows. -/
theorem readValue?_write {layout : Layout} (hlayout : layout.Blank) {level fuel : Nat}
    {blanks rest : List Char} (hblanks : ∀ b ∈ blanks, isBlank b) (hrest : EndsNumeral rest) :
    ∀ value, (write layout level value).length ≤ fuel →
      readValue? fuel (blanks ++ (write layout level value ++ rest)) = some (value, rest) := by
  intro value hfuel
  obtain ⟨c, tail, hwrite, hc, -⟩ := exists_write_eq layout level value
  obtain ⟨fuel, rfl⟩ : ∃ less, fuel = less + 1 := by
    rw [hwrite, List.length_cons] at hfuel
    exact ⟨fuel - 1, by omega⟩
  have htext : (blanks ++ (write layout level value ++ rest)).dropWhile isBlank =
      write layout level value ++ rest := by
    rw [hwrite]
    exact dropWhile_blanks hblanks hc
  generalize blanks ++ (write layout level value ++ rest) = text at htext ⊢
  cases value with
  | number value => exact readValue?_number hrest htext
  | bool value =>
      rw [readValue?, htext]
      cases value <;> rfl
  | string text =>
      obtain ⟨tail, hquote, hread⟩ := readText?_quote text
      rw [readValue?, htext, write, hquote]
      simp only [List.cons_append, hread, Option.map_some]
  | array items =>
      have hitems : items ≠ [] → (writeItems layout level items).length < fuel →
          readItems? fuel (writeItems layout level items ++ (layout.line level ++ ']' :: rest)) =
            some (items, rest) := readItems?_write hlayout items
      rw [write] at hfuel htext
      cases items with
      | nil =>
          rw [readValue?, htext]
          rfl
      | cons item items =>
          simp only [List.isEmpty_cons, Bool.false_eq_true, if_false, List.length_cons,
            List.length_append, List.cons_append, List.append_assoc, List.nil_append]
            at hfuel htext
          exact readValue?_array htext (dropWhile_writeItems_ne hlayout item items _)
            (hitems (List.cons_ne_nil _ _) (by omega))
  | object members =>
      have hmembers : members ≠ [] → (writeMembers layout level members).length < fuel →
          readMembers? fuel
              (writeMembers layout level members ++ (layout.line level ++ '}' :: rest)) =
            some (members, rest) := readMembers?_write hlayout members
      rw [write] at hfuel htext
      cases members with
      | nil =>
          rw [readValue?, htext]
          rfl
      | cons member members =>
          obtain ⟨key, value⟩ := member
          obtain ⟨tail, hquote, -⟩ := readText?_quote key
          simp only [List.isEmpty_cons, Bool.false_eq_true, if_false, List.length_cons,
            List.length_append, List.cons_append, List.append_assoc, List.nil_append]
            at hfuel htext
          refine readValue?_object htext ?_ (hmembers (List.cons_ne_nil _ _) (by omega))
          rw [dropWhile_writeMembers hlayout level hquote]
          exact fun after h => absurd (List.cons.inj h).1 (by decide)

theorem readItems?_write {layout : Layout} (hlayout : layout.Blank) {level fuel : Nat}
    {rest : List Char} :
    ∀ items, items ≠ [] → (writeItems layout level items).length < fuel →
      readItems? fuel (writeItems layout level items ++ (layout.line level ++ ']' :: rest)) =
        some (items, rest)
  | [], hne, _ => absurd rfl hne
  | item :: items, _, hfuel => by
      obtain ⟨fuel, rfl⟩ := Nat.exists_eq_add_one_of_ne_zero (Nat.ne_zero_of_lt hfuel)
      have hitems : items ≠ [] → (writeItems layout level items).length < fuel →
          readItems? fuel (writeItems layout level items ++ (layout.line level ++ ']' :: rest)) =
            some (items, rest) := readItems?_write hlayout items
      rw [writeItems, List.append_assoc, List.append_assoc]
      rw [writeItems, List.length_append, List.length_append] at hfuel
      cases items with
      | nil =>
          have hclose : EndsNumeral (layout.line level ++ ']' :: rest) :=
            endsNumeral_of_blanks (hlayout.line level) (by decide)
          exact readItems?_last (readValue?_write hlayout (hlayout.line _) hclose item (by omega))
            (dropWhile_blanks (hlayout.line level) (by decide))
      | cons next items =>
          rw [List.isEmpty_cons, if_neg Bool.false_ne_true, List.length_cons] at hfuel
          exact readItems?_more
            (readValue?_write hlayout (hlayout.line _) (endsNumeral_comma _) item (by omega))
            (List.dropWhile_cons_of_neg (by decide)) (hitems (List.cons_ne_nil _ _) (by omega))

theorem readMembers?_write {layout : Layout} (hlayout : layout.Blank) {level fuel : Nat}
    {rest : List Char} :
    ∀ members, members ≠ [] → (writeMembers layout level members).length < fuel →
      readMembers? fuel
          (writeMembers layout level members ++ (layout.line level ++ '}' :: rest)) =
        some (members, rest)
  | [], hne, _ => absurd rfl hne
  | (key, value) :: members, _, hfuel => by
      obtain ⟨fuel, rfl⟩ := Nat.exists_eq_add_one_of_ne_zero (Nat.ne_zero_of_lt hfuel)
      have hmembers : members ≠ [] → (writeMembers layout level members).length < fuel →
          readMembers? fuel
              (writeMembers layout level members ++ (layout.line level ++ '}' :: rest)) =
            some (members, rest) := readMembers?_write hlayout members
      obtain ⟨tail, hquote, hread⟩ := readText?_quote key
      have htext := dropWhile_writeMembers hlayout level hquote value members
        (layout.line level ++ '}' :: rest)
      simp only [writeMembers, List.length_append, List.length_cons] at hfuel
      cases members with
      | nil =>
          have hclose : EndsNumeral (layout.line level ++ '}' :: rest) :=
            endsNumeral_of_blanks (hlayout.line level) (by decide)
          exact readMembers?_last htext (hread _)
            (readValue?_write hlayout hlayout.gap hclose value (by omega))
            (dropWhile_blanks (hlayout.line level) (by decide))
      | cons next members =>
          rw [List.isEmpty_cons, if_neg Bool.false_ne_true, List.length_cons] at hfuel
          exact readMembers?_more htext (hread _)
            (readValue?_write hlayout hlayout.gap (endsNumeral_comma _) value (by omega))
            (List.dropWhile_cons_of_neg (by decide)) (hmembers (List.cons_ne_nil _ _) (by omega))

end

theorem read?_write {layout : Layout} (hlayout : layout.Blank) {level : Nat} {value : Json}
    {text : String} (htext : text.toList = write layout level value) {rest : String}
    (hrest : EndsNumeral rest.toList) : read? (text ++ rest) = some (value, rest) := by
  have hlength : (write layout level value).length ≤ (text ++ rest).length + 1 := by
    rw [← htext, String.length_toList, String.length_append]
    omega
  have hnone : ∀ b ∈ ([] : List Char), isBlank b := nofun
  have hread := readValue?_write hlayout hnone hrest value hlength
  rw [List.nil_append, ← htext, ← String.toList_append] at hread
  rw [read?, hread]
  simp only [Option.bind_eq_bind, Option.bind_some, Option.pure_def, String.ofList_toList]

/-- The compact text of a value is read back. -/
theorem read?_compact (value : Json) {rest : String} (hrest : EndsNumeral rest.toList) :
    read? (value.compact ++ rest) = some (value, rest) :=
  read?_write Layout.blank_compact (toList_compact 0 value) hrest

/-- The pretty text of a value is read back, at whatever level it starts. -/
theorem read?_pretty (level : Nat) (value : Json) {rest : String}
    (hrest : EndsNumeral rest.toList) : read? (value.pretty level ++ rest) = some (value, rest) :=
  read?_write Layout.blank_pretty (toList_pretty level value) hrest

end FrameStatus.Json
