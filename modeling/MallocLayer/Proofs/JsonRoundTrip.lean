import MallocLayer.Json.Printer
import MallocLayer.Json.Reader

/-!
# Reading what was written

The reader takes back a value from its compact text (`Canonical.readsBack`). This is so
for values without doubles whose objects have their keys in order, which are the
values that the reader itself returns, doubles apart. An object whose keys are not in
order, as that of a record, is read as the one in which they are
(`ofChars?_render_object`). The text is one line.

Each part of the reader is shown to undo the part of the printer that it belongs
to: digits, characters, and then values by induction on how they are built. How a
value is read depends on the text after it in one point only, since a number goes
on as long as it can.
-/

namespace MallocLayer.Json

/-! ## 1. Texts that end a number -/

/-- No number goes on into this text. -/
def Stops (cs : List Char) : Prop :=
  ∀ c ∈ cs.head?, c.isDigit = false ∧ c ≠ '.' ∧ c ≠ 'e' ∧ c ≠ 'E'

theorem stops_cons {c : Char} (cs : List Char)
    (ends : c.isDigit = false ∧ c ≠ '.' ∧ c ≠ 'e' ∧ c ≠ 'E') : Stops (c :: cs) := by
  rintro _ ⟨⟩
  exact ends

/-! ## 2. Numbers -/

theorem splitDigits_append {digits rest : List Char} (all : ∀ c ∈ digits, c.isDigit = true)
    (stops : Stops rest) : splitDigits (digits ++ rest) = (digits, rest) := by
  unfold splitDigits
  rw [List.takeWhile_append_of_pos all, List.dropWhile_append_of_pos all]
  cases rest with
  | nil => simp
  | cons c rest =>
    have other : ¬ c.isDigit = true := Bool.not_eq_true _ ▸ (stops c rfl).1
    rw [List.takeWhile_cons_of_neg other, List.dropWhile_cons_of_neg other, List.append_nil]

theorem le_ofDigitChars (n : Nat) (digits : List Char) : n ≤ Nat.ofDigitChars 10 digits n := by
  induction digits generalizing n with
  | nil => exact Nat.le_refl n
  | cons c rest ih => exact Nat.le_trans (by omega) (ih (10 * n + (c.toNat - 48)))

/-- Digits are absorbed as long as their value fits. -/
theorem absorb_eq {n : Nat} {digits : List Char}
    (fits : Nat.ofDigitChars 10 digits n < UInt64.size) :
    absorb n digits = (Nat.ofDigitChars 10 digits n, []) := by
  induction digits generalizing n with
  | nil => rfl
  | cons c rest ih =>
    have next : 10 * n + digitValue c < UInt64.size :=
      Nat.lt_of_le_of_lt (le_ofDigitChars _ rest) fits
    unfold absorb
    rw [if_pos next]
    exact ih fits

theorem toDigits_cons (n : Nat) : ∃ c cs, Nat.toDigits 10 n = c :: cs ∧ c.isDigit = true := by
  obtain ⟨c, cs, digits⟩ := List.exists_cons_of_ne_nil (Nat.toDigits_ne_nil (n := n) (b := 10))
  have member : c ∈ Nat.toDigits 10 n := digits ▸ List.mem_cons_self
  exact ⟨c, cs, digits, Nat.isDigit_of_mem_toDigits (by decide) (by decide) member⟩

theorem head?_toDigits {n : Nat} (positive : 0 < n) : (Nat.toDigits 10 n).head? ≠ some '0' := by
  induction n using Nat.strongRecOn with
  | ind n ih =>
    by_cases small : n < 10
    · rw [Nat.toDigits_of_lt_base small]
      intro zero
      have := Nat.digitChar_eq_zero.1 (Option.some.inj zero)
      omega
    · have front := ih (n / 10) (by omega) (by omega)
      obtain ⟨c, cs, digits, -⟩ := toDigits_cons (n / 10)
      rw [digits] at front
      rw [Nat.toDigits_of_base_le (by decide) (by omega), digits]
      exact front

/-- Zero is the only number whose digits start with a zero. -/
theorem toDigits_leading (n : Nat) :
    ¬ ((Nat.toDigits 10 n).head? = some '0' ∧ 1 < (Nat.toDigits 10 n).length) := by
  rintro ⟨zero, long⟩
  cases n with
  | zero => exact absurd long (by decide)
  | succ n => exact head?_toDigits (Nat.succ_pos n) zero

theorem readUnsigned_toDigits {negative : Bool} {n : Nat} {v : Json} {rest : List Char}
    (fits : n < UInt64.size) (is : integerOrDouble? negative n = some v) (stops : Stops rest) :
    readUnsigned negative (Nat.toDigits 10 n ++ rest) = some (v, rest) := by
  have digits : splitDigits (Nat.toDigits 10 n ++ rest) = (Nat.toDigits 10 n, rest) :=
    splitDigits_append (fun c => Nat.isDigit_of_mem_toDigits (by decide) (by decide)) stops
  have value : Nat.ofDigitChars 10 (Nat.toDigits 10 n) 0 = n :=
    Nat.ofDigitChars_toDigits (by decide) (by decide)
  have absorbed : absorb 0 (Nat.toDigits 10 n) = (n, []) := by
    rw [absorb_eq (value.symm ▸ fits), value]
  have nonempty : (Nat.toDigits 10 n).isEmpty = false :=
    List.isEmpty_eq_false_iff.2 Nat.toDigits_ne_nil
  unfold readUnsigned
  rw [digits]
  simp only [nonempty, Bool.false_eq_true, if_false, if_neg (toDigits_leading n), absorbed, is]
  cases rest with
  | nil => rfl
  | cons c rest =>
    obtain ⟨-, point, lower, upper⟩ := stops c rfl
    simp [point, lower, upper]

theorem integerOrDouble?_negative (n : Integer) (negative : n.value < 0) :
    integerOrDouble? true n.value.natAbs = some (.integer n) := by
  obtain ⟨n, least, greatest⟩ := n
  have signed : ¬ (n.natAbs = 0 ∨ 0x8000000000000000 < n.natAbs) := by
    dsimp only at negative
    omega
  have minus : -(n.natAbs : Int) = n := by
    dsimp only at negative
    omega
  have ofInt : Integer.ofInt? n = some ⟨n, least, greatest⟩ := dif_pos ⟨least, greatest⟩
  simp only [integerOrDouble?, if_true, if_neg signed, minus, ofInt, Option.map_some]

theorem integerOrDouble?_unsigned (n : Integer) (unsigned : ¬ n.value < 0) :
    integerOrDouble? false n.value.natAbs = some (.integer n) := by
  obtain ⟨n, least, greatest⟩ := n
  have plus : (n.natAbs : Int) = n := by
    dsimp only at unsigned
    omega
  have ofInt : Integer.ofInt? n = some ⟨n, least, greatest⟩ := dif_pos ⟨least, greatest⟩
  simp only [integerOrDouble?, Bool.false_eq_true, if_false, plus, ofInt, Option.map_some]

theorem readNumber_renderInteger (n : Integer) {rest : List Char} (stops : Stops rest) :
    readNumber (renderInteger n ++ rest) = some (.integer n, rest) := by
  have fits : n.value.natAbs < UInt64.size := by
    have least := n.least
    have greatest := n.greatest
    rw [show UInt64.size = 18446744073709551616 from rfl]
    omega
  by_cases negative : n.value < 0
  · rw [renderInteger, if_pos negative]
    exact readUnsigned_toDigits fits (integerOrDouble?_negative n negative) stops
  · have read := readUnsigned_toDigits fits (integerOrDouble?_unsigned n negative) stops
    obtain ⟨c, cs, digits, digit⟩ := toDigits_cons n.value.natAbs
    -- A digit is no sign, so the reader takes the number as unsigned.
    have unsigned : c ≠ '-' := by
      rintro rfl
      cases digit
    rw [renderInteger, if_neg negative]
    rw [digits] at read ⊢
    exact (if_neg unsigned).trans read

/-! ## 3. Strings -/

theorem hexValue?_hexDigit (n : Nat) : hexValue? (hexDigit n) = some (n % 16) := by
  have all : ∀ k < 16, hexValue? (Nat.digitChar k) = some k := by decide
  exact all (n % 16) (Nat.mod_lt n (by decide))

/-- A character that is escaped as a unit is read from it. -/
theorem readCodePoint_hexDigits {c : Char} (small : c.toNat < 0x20) (rest : List Char) :
    readCodePoint ('0' :: '0' :: hexDigit (c.toNat / 16) :: hexDigit c.toNat :: rest) =
      some (c, rest) := by
  have zero : hexValue? '0' = some 0 := rfl
  have unit : ((0 * 16 + 0) * 16 + c.toNat / 16 % 16) * 16 + c.toNat % 16 = c.toNat := by omega
  have read : readUnit ('0' :: '0' :: hexDigit (c.toNat / 16) :: hexDigit c.toNat :: rest) =
      some (c.toNat, rest) := by
    simp only [readUnit, zero, hexValue?_hexDigit, Option.bind_eq_bind, Option.bind_some, unit]
  have high : ¬ (0xd800 ≤ c.toNat ∧ c.toNat < 0xdc00) := by omega
  have low : ¬ (0xdc00 ≤ c.toNat ∧ c.toNat < 0xe000) := by omega
  simp only [readCodePoint, read, Option.bind_eq_bind, Option.bind_some, if_neg high, if_neg low,
    Char.ofNat_toNat]

/-- A character either stands for itself or is escaped. -/
theorem escapeChar_cases (c : Char) :
    (escapeChar c = [c] ∧ c ≠ '"' ∧ c ≠ '\\' ∧ ¬ c.toNat < 0x20) ∨
      ∃ escape, escapeChar c = '\\' :: escape ∧
        ∀ rest, readEscape (escape ++ rest) = some (c, rest) := by
  unfold escapeChar
  -- Seven characters have an escape of their own.
  iterate 7
    split
    · next same =>
      subst same
      exact .inr ⟨_, rfl, fun _ => rfl⟩
  next quote backslash _ _ _ _ _ =>
  split
  · next small => exact .inr ⟨_, rfl, readCodePoint_hexDigits small⟩
  · next large => exact .inl ⟨rfl, quote, backslash, large⟩

theorem readCharacters_escaped {cs rest : List Char} {fuel : Nat} (enough : cs.length < fuel)
    (done : List Char) :
    readCharacters fuel (cs.flatMap escapeChar ++ '"' :: rest) done =
      some (String.ofList (done.reverse ++ cs), rest) := by
  induction cs generalizing fuel done with
  | nil =>
    obtain ⟨fuel, rfl⟩ := Nat.exists_eq_add_one_of_ne_zero (Nat.ne_of_gt enough)
    rw [List.append_nil]
    rfl
  | cons c cs ih =>
    obtain ⟨fuel, rfl⟩ :=
      Nat.exists_eq_add_one_of_ne_zero (Nat.ne_of_gt (Nat.zero_lt_of_lt enough))
    have more := ih (Nat.lt_of_succ_lt_succ enough) (c :: done)
    rw [List.reverse_cons, List.append_assoc, List.singleton_append] at more
    rw [List.flatMap_cons, List.append_assoc]
    rcases escapeChar_cases c with ⟨plain, quote, backslash, large⟩ | ⟨escape, escaped, read⟩
    · rw [plain, List.singleton_append, readCharacters, if_neg quote, if_neg backslash,
        if_neg large]
      exact more
    · rw [escaped, List.cons_append, readCharacters, if_neg (by decide), if_pos rfl, read]
      exact more

/-- A string without the quote in front. -/
theorem readCharacters_renderString (s : String) (rest : List Char) {fuel : Nat}
    (enough : s.toList.length < fuel) :
    readCharacters fuel (s.toList.flatMap escapeChar ++ '"' :: rest) [] = some (s, rest) := by
  rw [readCharacters_escaped enough, List.reverse_nil, List.nil_append, String.ofList_toList]

theorem length_le_escaped (cs : List Char) : cs.length ≤ (cs.flatMap escapeChar).length := by
  induction cs with
  | nil => exact Nat.le_refl 0
  | cons c cs ih =>
    have one : 1 ≤ (escapeChar c).length := by
      rcases escapeChar_cases c with ⟨plain, -⟩ | ⟨escape, escaped, -⟩
      · rw [plain]
        exact Nat.le_refl 1
      · rw [escaped]
        exact Nat.le_add_left ..
    rw [List.flatMap_cons, List.length_append, List.length_cons]
    omega

theorem length_renderString (s : String) : s.toList.length + 2 ≤ (renderString s).length := by
  have := length_le_escaped s.toList
  rw [renderString, List.length_append, List.length_cons, List.length_singleton]
  omega

/-! ## 4. Objects -/

theorem insertMember_last {key : String} {value : Json} {members : List (String × Json)}
    (last : ∀ m ∈ members, m.1 < key) :
    insertMember key value members = members ++ [(key, value)] := by
  induction members with
  | nil => rfl
  | cons m rest ih =>
    have less : m.1 < key := last m List.mem_cons_self
    have other : key ≠ m.1 := fun same => String.lt_irrefl _ (same ▸ less)
    rw [insertMember, if_neg (String.lt_asymm less), if_neg other,
      ih fun m member => last m (List.mem_cons_of_mem _ member)]
    rfl

theorem foldl_insertMember (front : List (String × Json)) {members : List (String × Json)}
    (ordered : ((front ++ members).map Prod.fst).Pairwise (· < ·)) :
    members.foldl (fun sorted (key, value) => insertMember key value sorted) front =
      front ++ members := by
  induction members generalizing front with
  | nil => exact (List.append_nil front).symm
  | cons m rest ih =>
    have last : ∀ other ∈ front, other.1 < m.1 := by
      intro other member
      rw [List.map_append, List.pairwise_append] at ordered
      exact ordered.2.2 _ (List.mem_map_of_mem member) _ List.mem_cons_self
    rw [List.append_cons] at ordered ⊢
    rw [← ih _ ordered, List.foldl_cons]
    exact congrArg (fun sorted => rest.foldl _ sorted) (insertMember_last last)

/-- Members whose keys are in order are the members of the object that they make. -/
theorem ofMembers_eq {members : List (String × Json)}
    (ordered : (members.map Prod.fst).Pairwise (· < ·)) : ofMembers members = .object members :=
  congrArg Json.object (foldl_insertMember [] ordered)

/-! ## 5. Values -/

/-- A value that the reader returns as it is: it has no doubles, arrays and objects
are nested at most `depth` deep, and the keys of objects are in order. -/
inductive Canonical : (depth : Nat) → Json → Prop
  | null {depth} : Canonical depth .null
  | bool {depth} (b : Bool) : Canonical depth (.bool b)
  | integer {depth} (n : Integer) : Canonical depth (.integer n)
  | string {depth} (s : String) : Canonical depth (.string s)
  | array {depth} {elements : List Json} (canonical : ∀ v ∈ elements, Canonical depth v) :
    Canonical (depth + 1) (.array elements)
  | object {depth} {members : List (String × Json)}
    (ordered : (members.map Prod.fst).Pairwise (· < ·))
    (canonical : ∀ m ∈ members, Canonical depth m.2) : Canonical (depth + 1) (.object members)

theorem Canonical.mono {depth deeper : Nat} {v : Json} (canonical : Canonical depth v)
    (within : depth ≤ deeper) : Canonical deeper v := by
  induction canonical generalizing deeper with
  | null => exact .null
  | bool b => exact .bool b
  | integer n => exact .integer n
  | string s => exact .string s
  | array _ ih =>
    obtain ⟨k, rfl⟩ := Nat.exists_eq_add_of_le' within
    exact .array fun v member => ih v member (Nat.le_add_left ..)
  | object ordered _ ih =>
    obtain ⟨k, rfl⟩ := Nat.exists_eq_add_of_le' within
    exact .object ordered fun m member => ih m member (Nat.le_add_left ..)

/-- The value is read from its text. -/
def ReadsBack (depth : Nat) (v : Json) : Prop :=
  ∀ fuel rest, 2 * (render v).length ≤ fuel → Stops rest →
    readValue fuel depth (render v ++ rest) = some (v, rest)

theorem skipBlanks_cons {c : Char} (mark : isBlank c = false) (cs : List Char) :
    skipBlanks (c :: cs) = c :: cs :=
  List.dropWhile_cons_of_neg (Bool.not_eq_true _ ▸ mark)

theorem readElements_render {depth : Nat} {v : Json} {vs : List Json}
    (back : ∀ w ∈ v :: vs, ReadsBack depth w) (fuel : Nat) (rest : List Char)
    (enough : 2 * ((render v).length + (renderElements vs).length) ≤ fuel) :
    readElements fuel depth (render v ++ (renderElements vs ++ rest)) = some (v :: vs, rest) := by
  -- An element ends before a comma or a bracket, where no number goes on.
  induction vs generalizing v fuel with
  | nil =>
    rw [renderElements, List.length_singleton] at enough
    obtain ⟨fuel, rfl⟩ : ∃ k, fuel = k + 1 := ⟨fuel - 1, by omega⟩
    have first := back v List.mem_cons_self fuel (']' :: rest) (by omega)
      (stops_cons _ (by decide))
    rw [renderElements, List.singleton_append, readElements, first]
    rfl
  | cons w ws ih =>
    rw [renderElements, List.length_append, List.length_cons] at enough
    obtain ⟨fuel, rfl⟩ : ∃ k, fuel = k + 1 := ⟨fuel - 1, by omega⟩
    have first := back v List.mem_cons_self fuel
      (',' :: (render w ++ (renderElements ws ++ rest))) (by omega)
      (stops_cons _ (by decide))
    have others := ih (fun u member => back u (List.mem_cons_of_mem _ member)) fuel (by omega)
    rw [renderElements, List.append_assoc, List.cons_append, readElements, first]
    simp only [Option.bind_eq_bind, Option.bind_some, others,
      skipBlanks_cons (show isBlank ',' = false from rfl)]
    rfl

theorem readKey_renderString {key : String} {fuel : Nat} (enough : key.toList.length < fuel)
    (rest : List Char) : readKey fuel (renderString key ++ ':' :: rest) = some (key, rest) := by
  have read := readCharacters_renderString key (':' :: rest) enough
  rw [renderString, List.append_assoc, List.singleton_append, List.cons_append, readKey,
    skipBlanks_cons rfl]
  simp only [if_true, read, Option.bind_eq_bind, Option.bind_some]
  rfl

theorem readMembers_render {depth : Nat} {key : String} {v : Json} {ms : List (String × Json)}
    (back : ∀ m ∈ (key, v) :: ms, ReadsBack depth m.2) (fuel : Nat) (rest : List Char)
    (enough : 2 * ((renderString key).length + (render v).length + (renderMembers ms).length) ≤
      fuel) :
    readMembers fuel depth (renderString key ++ ':' :: (render v ++ (renderMembers ms ++ rest))) =
      some ((key, v) :: ms, rest) := by
  have short := length_renderString key
  induction ms generalizing key v fuel with
  | nil =>
    rw [renderMembers, List.length_singleton] at enough
    obtain ⟨fuel, rfl⟩ : ∃ k, fuel = k + 1 := ⟨fuel - 1, by omega⟩
    have first := back (key, v) List.mem_cons_self fuel ('}' :: rest)
      (by dsimp only; omega) (stops_cons _ (by decide))
    rw [renderMembers, List.singleton_append, readMembers, readKey_renderString (by omega)]
    simp only [Option.bind_eq_bind, Option.bind_some, first,
      skipBlanks_cons (show isBlank '}' = false from rfl)]
    rfl
  | cons m ms ih =>
    obtain ⟨next, w⟩ := m
    have following := length_renderString next
    rw [renderMembers, List.length_append, List.length_append, List.length_cons, List.length_cons]
      at enough
    obtain ⟨fuel, rfl⟩ : ∃ k, fuel = k + 1 := ⟨fuel - 1, by omega⟩
    have first := back (key, v) List.mem_cons_self fuel
      (',' :: (renderString next ++ ':' :: (render w ++ (renderMembers ms ++ rest))))
      (by dsimp only; omega) (stops_cons _ (by decide))
    have others := ih (fun u member => back u (List.mem_cons_of_mem _ member)) fuel (by omega)
      following
    rw [renderMembers, List.append_assoc, List.append_assoc, List.cons_append, List.cons_append,
      readMembers, readKey_renderString (by omega)]
    simp only [Option.bind_eq_bind, Option.bind_some, first, others,
      skipBlanks_cons (show isBlank ',' = false from rfl)]
    rfl

theorem renderInteger_head (n : Integer) :
    ∃ c cs, renderInteger n = c :: cs ∧ (c = '-' ∨ c.isDigit = true) := by
  unfold renderInteger
  split
  · exact ⟨'-', _, rfl, .inl rfl⟩
  · obtain ⟨c, cs, digits, digit⟩ := toDigits_cons n.value.natAbs
    exact ⟨c, cs, digits, .inr digit⟩

theorem ne_of_numeric {c mark : Char} (numeric : c = '-' ∨ c.isDigit = true)
    (other : mark ≠ '-' ∧ mark.isDigit = false) : c ≠ mark := by
  rintro rfl
  rcases numeric with minus | digit
  · exact other.1 minus
  · exact absurd (digit.symm.trans other.2) nofun

theorem isBlank_of_numeric {c : Char} (numeric : c = '-' ∨ c.isDigit = true) :
    isBlank c = false := by
  have space : c ≠ ' ' := ne_of_numeric numeric (by decide)
  have tab : c ≠ '\t' := ne_of_numeric numeric (by decide)
  have feed : c ≠ '\n' := ne_of_numeric numeric (by decide)
  have carriage : c ≠ '\r' := ne_of_numeric numeric (by decide)
  simp [isBlank, space, tab, feed, carriage]

/-- No value starts with a blank, and none with a closing bracket. -/
theorem Canonical.head {depth : Nat} {v : Json} (canonical : Canonical depth v) :
    ∃ c cs, render v = c :: cs ∧ isBlank c = false ∧ c ≠ ']' := by
  cases canonical with
  | null => exact ⟨'n', _, rfl, rfl, by decide⟩
  | bool b =>
    cases b with
    | true => exact ⟨'t', _, rfl, rfl, by decide⟩
    | false => exact ⟨'f', _, rfl, rfl, by decide⟩
  | integer n =>
    obtain ⟨c, cs, shape, numeric⟩ := renderInteger_head n
    exact ⟨c, cs, by rw [render, shape], isBlank_of_numeric numeric,
      ne_of_numeric numeric (by decide)⟩
  | string s => exact ⟨'"', _, by rw [render, renderString, List.cons_append], rfl, by decide⟩
  | @array _ elements _ =>
    cases elements with
    | nil => exact ⟨'[', _, rfl, rfl, by decide⟩
    | cons v vs => exact ⟨'[', _, by rw [render, List.cons_append], rfl, by decide⟩
  | @object _ members _ _ =>
    cases members with
    | nil => exact ⟨'{', _, rfl, rfl, by decide⟩
    | cons m ms =>
      exact ⟨'{', _, by rw [render, List.cons_append, List.cons_append], rfl, by decide⟩

theorem closing?_eq_none {c mark : Char} {cs : List Char} (present : isBlank c = false)
    (other : c ≠ mark) : closing? mark (c :: cs) = none := by
  rw [closing?, skipBlanks_cons present]
  exact if_neg other

theorem readValue_integer (n : Integer) {fuel : Nat} (depth : Nat) {rest : List Char}
    (stops : Stops rest) :
    readValue (fuel + 1) depth (renderInteger n ++ rest) = some (.integer n, rest) := by
  have read := readNumber_renderInteger n stops
  obtain ⟨c, cs, shape, numeric⟩ := renderInteger_head n
  rw [shape, List.cons_append] at read ⊢
  have quote : c ≠ '"' := ne_of_numeric numeric (by decide)
  have bracket : c ≠ '[' := ne_of_numeric numeric (by decide)
  have brace : c ≠ '{' := ne_of_numeric numeric (by decide)
  rw [readValue, skipBlanks_cons (isBlank_of_numeric numeric)]
  simp only [if_neg quote, if_neg bracket, if_neg brace, if_pos numeric, read]

theorem readValue_string (s : String) {fuel : Nat} (depth : Nat) (rest : List Char)
    (enough : s.toList.length < fuel) :
    readValue (fuel + 1) depth (renderString s ++ rest) = some (.string s, rest) := by
  have read := readCharacters_renderString s rest enough
  rw [renderString, List.append_assoc, List.singleton_append, List.cons_append, readValue,
    skipBlanks_cons rfl]
  simp only [if_true, read, Option.bind_eq_bind, Option.bind_some]

theorem readValue_array {depth : Nat} {elements : List Json}
    (back : ∀ v ∈ elements, ReadsBack depth v) (heads : ∀ v ∈ elements, Canonical depth v)
    (fuel : Nat) (rest : List Char) (enough : 2 * (render (.array elements)).length ≤ fuel + 1) :
    readValue (fuel + 1) (depth + 1) (render (.array elements) ++ rest) =
      some (.array elements, rest) := by
  cases elements with
  | nil => rfl
  | cons v vs =>
    rw [render, List.length_append, List.length_cons] at enough
    have read := readElements_render back fuel rest (by omega)
    obtain ⟨c, cs, shape, present, other⟩ := (heads v List.mem_cons_self).head
    rw [shape, List.cons_append] at read
    rw [render, List.append_assoc, List.cons_append, shape, List.cons_append, readValue,
      skipBlanks_cons rfl]
    simp only [closing?_eq_none present other, read, Option.bind_eq_bind, Option.bind_some]
    rfl

/-- An object of canonical values is read as the one with its keys in order. -/
theorem readValue_object {depth : Nat} {members : List (String × Json)}
    (back : ∀ m ∈ members, ReadsBack depth m.2) (fuel : Nat) (rest : List Char)
    (enough : 2 * (render (.object members)).length ≤ fuel + 1) :
    readValue (fuel + 1) (depth + 1) (render (.object members) ++ rest) =
      some (ofMembers members, rest) := by
  cases members with
  | nil => rfl
  | cons m ms =>
    obtain ⟨key, v⟩ := m
    rw [render, List.length_append, List.length_append, List.length_cons, List.length_cons]
      at enough
    have read := readMembers_render back fuel rest (by omega)
    have quoted : renderString key = '"' :: (key.toList.flatMap escapeChar ++ ['"']) := rfl
    rw [quoted, List.cons_append] at read
    rw [render, List.append_assoc, List.append_assoc, List.cons_append, List.cons_append, quoted,
      List.cons_append, readValue, skipBlanks_cons rfl]
    simp only [closing?_eq_none (show isBlank '"' = false from rfl) (show '"' ≠ '}' by decide),
      read, Option.bind_eq_bind, Option.bind_some]
    rfl

theorem Canonical.exists_fuel {depth fuel : Nat} {v : Json} (canonical : Canonical depth v)
    (enough : 2 * (render v).length ≤ fuel) : ∃ k, fuel = k + 1 := by
  obtain ⟨c, cs, shape, -⟩ := canonical.head
  rw [shape, List.length_cons] at enough
  exact ⟨fuel - 1, by omega⟩

/-- Canonical values are read as they are. -/
theorem Canonical.readsBack {depth : Nat} {v : Json} (canonical : Canonical depth v) :
    ReadsBack depth v := by
  -- Each value costs one unit of fuel, and its text has at least one character.
  induction canonical with
  | null =>
    intro fuel rest enough stops
    obtain ⟨fuel, rfl⟩ := (.null : Canonical 0 .null).exists_fuel enough
    rfl
  | bool b =>
    intro fuel rest enough stops
    obtain ⟨fuel, rfl⟩ := (.bool b : Canonical 0 (.bool b)).exists_fuel enough
    cases b <;> rfl
  | integer n =>
    intro fuel rest enough stops
    obtain ⟨fuel, rfl⟩ := (.integer n : Canonical 0 (.integer n)).exists_fuel enough
    rw [render]
    exact readValue_integer n _ stops
  | string s =>
    intro fuel rest enough stops
    obtain ⟨fuel, rfl⟩ := (.string s : Canonical 0 (.string s)).exists_fuel enough
    rw [render] at enough ⊢
    have short := length_renderString s
    exact readValue_string s _ rest (by omega)
  | array canonical ih =>
    intro fuel rest enough stops
    obtain ⟨fuel, rfl⟩ := (Canonical.array canonical).exists_fuel enough
    exact readValue_array ih canonical fuel rest enough
  | object ordered canonical ih =>
    intro fuel rest enough stops
    obtain ⟨fuel, rfl⟩ := (Canonical.object ordered canonical).exists_fuel enough
    rw [readValue_object ih fuel rest enough, ofMembers_eq ordered]

/-! ## 6. Texts -/

/-- The text of a record, whose keys are in any order, says the object in which they
are in order. -/
theorem ofChars?_render_object {members : List (String × Json)}
    (canonical : ∀ m ∈ members, Canonical 126 m.2) :
    ofChars? (render (.object members)) = some (ofMembers members) := by
  have read := readValue_object (fun m member => (canonical m member).readsBack)
    (2 * (render (.object members)).length + 1) [] (by omega)
  rw [List.append_nil] at read
  rw [ofChars?, show deepest = 126 + 1 from rfl, read]
  rfl

/-! ## 7. The text is one line -/

theorem lineFeed_not_mem_escapeChar (c : Char) : '\n' ∉ escapeChar c := by
  unfold escapeChar
  iterate 7
    split
    · decide
  next feed _ _ =>
  have digit (n : Nat) : '\n' ≠ hexDigit n := (Nat.digitChar_ne '\n' rfl).symm
  split
  · simp [digit]
  · exact fun member => feed (List.mem_singleton.1 member).symm

theorem lineFeed_not_mem_renderString (s : String) : '\n' ∉ renderString s := by
  have inside : '\n' ∉ s.toList.flatMap escapeChar := by
    rw [List.mem_flatMap]
    rintro ⟨c, -, member⟩
    exact lineFeed_not_mem_escapeChar c member
  simp [renderString, inside]

theorem lineFeed_not_mem_renderInteger (n : Integer) : '\n' ∉ renderInteger n := by
  have digits : '\n' ∉ Nat.toDigits 10 n.value.natAbs := by
    intro member
    cases Nat.isDigit_of_mem_toDigits (by decide) (by decide) member
  unfold renderInteger
  split
  · simp [digits]
  · exact digits

theorem lineFeed_not_mem_renderElements {vs : List Json} (none : ∀ v ∈ vs, '\n' ∉ render v) :
    '\n' ∉ renderElements vs := by
  induction vs with
  | nil => decide
  | cons v vs ih =>
    have first := none v List.mem_cons_self
    have others := ih fun w member => none w (List.mem_cons_of_mem _ member)
    simp [renderElements, first, others]

theorem lineFeed_not_mem_renderMembers {ms : List (String × Json)}
    (none : ∀ m ∈ ms, '\n' ∉ render m.2) : '\n' ∉ renderMembers ms := by
  induction ms with
  | nil => decide
  | cons m ms ih =>
    have key := lineFeed_not_mem_renderString m.1
    have first := none m List.mem_cons_self
    have others := ih fun w member => none w (List.mem_cons_of_mem _ member)
    simp [renderMembers, key, first, others]

theorem lineFeed_not_mem_object {members : List (String × Json)}
    (none : ∀ m ∈ members, '\n' ∉ render m.2) : '\n' ∉ render (.object members) := by
  cases members with
  | nil => decide
  | cons m ms =>
    have key := lineFeed_not_mem_renderString m.1
    have first := none m List.mem_cons_self
    have others := lineFeed_not_mem_renderMembers fun w member =>
      none w (List.mem_cons_of_mem _ member)
    simp [render, key, first, others]

theorem Canonical.lineFeed_not_mem {depth : Nat} {v : Json} (canonical : Canonical depth v) :
    '\n' ∉ render v := by
  induction canonical with
  | null => decide
  | bool b => cases b <;> decide
  | integer n =>
    rw [render]
    exact lineFeed_not_mem_renderInteger n
  | string s =>
    rw [render]
    exact lineFeed_not_mem_renderString s
  | @array _ elements _ ih =>
    cases elements with
    | nil => decide
    | cons v vs =>
      have first := ih v List.mem_cons_self
      have others := lineFeed_not_mem_renderElements fun w member =>
        ih w (List.mem_cons_of_mem _ member)
      simp [render, first, others]
  | object ordered canonical ih => exact lineFeed_not_mem_object ih

theorem renderMembers_closed (ms : List (String × Json)) :
    ∃ inside, renderMembers ms = inside ++ ['}'] := by
  induction ms with
  | nil => exact ⟨[], rfl⟩
  | cons m ms ih =>
    obtain ⟨inside, closed⟩ := ih
    exact ⟨_, by rw [renderMembers, closed, ← List.append_assoc]⟩

theorem render_object_closed (members : List (String × Json)) :
    ∃ inside, render (.object members) = '{' :: (inside ++ ['}']) := by
  cases members with
  | nil => exact ⟨[], rfl⟩
  | cons m ms =>
    obtain ⟨inside, closed⟩ := renderMembers_closed ms
    refine ⟨renderString m.1 ++ ':' :: render m.2 ++ inside, ?_⟩
    rw [render, closed, ← List.append_assoc]
    rfl

end MallocLayer.Json
