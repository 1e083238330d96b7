import Mathlib
import Parley.Action.Kind

/-!
# Reading actions

An action is read from text with its blanks trimmed and its case ignored: the word `normal`, or a
numeral of at most 16 bits, which is an optional `+` followed by one or more ASCII digits,
leading zeros allowed. Anything else is refused with a message that quotes the text as given.

Main statement (`action_kind_reading`): reading succeeds exactly on that grammar, with the value
the numeral spells. The decimal text of a code reads back as that code, but the name an action is
shown under reads back only for the normal action, since `action #n` is no numeral.

## Implementation notes

Case is ignored by making ASCII capitals small (`Text.asciiLower`). The grammar is stated on the
text after trimming and folding, `ActionKind.key`. Full Unicode lowercasing accepts the same words
(`key_full_fold`), for any folding that folds ASCII as ASCII and leaves, for a character outside
ASCII, a character that no word is made of.
-/

namespace Parley

namespace Text

/-- A list whose first entry fails `p` loses nothing to `dropWhile p`. -/
theorem dropWhile_of_head {α : Type} {p : α → Bool} {l : List α}
    (h : ∀ x ∈ l.head?, p x = false) : l.dropWhile p = l := by
  cases l with
  | nil => rfl
  | cons x l => exact List.dropWhile_cons_of_neg (by simpa using h x rfl)

/-- Trimming leaves a text alone when neither its first nor its last character is blank. -/
theorem trimBlank_eq_self {s : String} (hhead : ∀ c ∈ s.toList.head?, isBlank c = false)
    (hlast : ∀ c ∈ s.toList.getLast?, isBlank c = false) : trimBlank s = s := by
  unfold trimBlank
  rw [dropWhile_of_head hhead, dropWhile_of_head (by rwa [List.head?_reverse]),
    List.reverse_reverse, String.ofList_toList]

/-- Trimming keeps the first character when it is not blank. -/
theorem head?_trimBlank {s : String} {c : Char} {rest : List Char} (hs : s.toList = c :: rest)
    (hc : isBlank c = false) : (trimBlank s).toList.head? = some c := by
  have hkeep : (s.toList.dropWhile isBlank) = c :: rest := by
    rw [hs]
    exact List.dropWhile_cons_of_neg (by simp [hc])
  -- what the trim drops at the back stops at `c` at the latest
  have hback : ∃ mid, ((c :: rest).reverse.dropWhile isBlank).reverse = c :: mid := by
    rw [List.reverse_cons, List.dropWhile_append]
    split
    · exact ⟨[], by simp [hc]⟩
    · exact ⟨(rest.reverse.dropWhile isBlank).reverse, by simp⟩
  obtain ⟨mid, hmid⟩ := hback
  simp only [trimBlank, String.toList_ofList, hkeep, hmid, List.head?_cons]

theorem toList_asciiLower (s : String) : (asciiLower s).toList = s.toList.map Char.toLower := by
  simp [asciiLower]

/-- Making small leaves a character that is not an ASCII capital. -/
theorem toLower_of_not_upper {c : Char} (h : c.isUpper = false) : c.toLower = c := by
  unfold Char.toLower
  rw [dif_neg]
  simpa [Char.isUpper] using h

/-- Folding case leaves a text without ASCII capitals alone. -/
theorem asciiLower_eq_self {s : String} (h : ∀ c ∈ s.toList, c.isUpper = false) :
    asciiLower s = s := by
  rw [String.ext_iff, toList_asciiLower]
  conv_rhs => rw [← List.map_id s.toList]
  exact List.map_congr_left fun c hc => toLower_of_not_upper (h c hc)

/-- A digit is neither blank nor a capital. -/
theorem digit_plain {c : Char} (h : c.isDigit = true) : isBlank c = false ∧ c.isUpper = false := by
  have hc : 48 ≤ c.toNat ∧ c.toNat ≤ 57 := Char.isDigit_iff_toNat.mp h
  constructor
  · simp only [isBlank, blankRanges, List.any_cons, List.any_nil, Bool.or_eq_false_iff,
      Bool.and_eq_false_iff, decide_eq_false_iff_not, and_true]
    omega
  · simp only [Char.isUpper, decide_eq_false_iff_not, UInt32.le_iff_toNat_le, Char.toNat_val,
      Char.reduceToNat]
    omega

/-- A character outside ASCII is no capital. -/
theorem not_upper_of_ascii_le {c : Char} (h : 128 ≤ c.toNat) : c.isUpper = false := by
  simp only [Char.isUpper, decide_eq_false_iff_not, UInt32.le_iff_toNat_le, Char.toNat_val,
    Char.reduceToNat]
  omega

/-- A text folded by `fold` is a word over the ASCII alphabet `A` exactly when it is one folded
by `Char.toLower`, for a folding that folds ASCII text as `Char.toLower` does and leaves, for a
character outside ASCII, a character outside `A`: when the text is all ASCII both foldings agree,
and otherwise neither gives a word over `A`. -/
theorem word_fold_iff {A : Char → Prop} {word : List Char → Prop}
    (hword : ∀ w, word w → ∀ d ∈ w, A d) (hA : ∀ d, A d → d.toNat < 128)
    {fold : List Char → List Char}
    (hascii : ∀ u, (∀ c ∈ u, c.toNat < 128) → fold u = u.map Char.toLower)
    (hother : ∀ u c, c ∈ u → 128 ≤ c.toNat → ∃ d ∈ fold u, ¬A d) (u : List Char) :
    word (fold u) ↔ word (u.map Char.toLower) := by
  by_cases hall : ∀ c ∈ u, c.toNat < 128
  · rw [hascii u hall]
  · -- a character outside ASCII leaves neither folding a word over `A`
    obtain ⟨c, hc, hbig⟩ : ∃ c ∈ u, 128 ≤ c.toNat := by
      simpa only [not_forall, not_lt, exists_prop] using hall
    constructor
    · intro h
      obtain ⟨d, hd, hnot⟩ := hother u c hc hbig
      exact absurd (hword _ h d hd) hnot
    · intro h
      have hlow := hA _ (hword _ h c.toLower (List.mem_map_of_mem hc))
      rw [toLower_of_not_upper (not_upper_of_ascii_le hbig)] at hlow
      omega

end Text

namespace ActionKind

/-- The text an action is read from: trimmed and folded to small letters. -/
def key (s : String) : String := Text.asciiLower (Text.trimBlank s)

/-- `t` is a numeral for `n`: an optional `+`, then one or more ASCII digits that spell `n` in
decimal, leading zeros allowed. -/
def Numeral (t : String) (n : Nat) : Prop :=
  ∃ ds : List Char, ds ≠ [] ∧ (∀ c ∈ ds, c.isDigit = true) ∧
    (t.toList = ds ∨ t.toList = '+' :: ds) ∧ Nat.ofDigitChars 10 ds 0 = n

/-- A numeral starts with `+` or a digit. -/
theorem head_of_numeral {t : String} {n : Nat} (h : Numeral t n) :
    ∃ c rest, t.toList = c :: rest ∧ (c = '+' ∨ c.isDigit = true) := by
  obtain ⟨ds, hne, hdig, hds | hds, -⟩ := h
  · obtain ⟨c, rest, rfl⟩ := List.exists_cons_of_ne_nil hne
    exact ⟨c, rest, hds, .inr (hdig c (by simp))⟩
  · exact ⟨'+', ds, hds, .inl rfl⟩

/-- The word `normal` is no numeral. -/
theorem not_numeral_normal (n : Nat) : ¬Numeral "normal" n := by
  intro h
  obtain ⟨c, rest, hs, hc⟩ := head_of_numeral h
  have hn : c = 'n' := by
    have : "normal".toList = ['n', 'o', 'r', 'm', 'a', 'l'] := by decide
    rw [this] at hs
    exact (List.cons.inj hs).1.symm
  subst hn
  revert hc
  decide

/-- The digits' value as the reading folds it, most significant first. -/
theorem foldl_digits (ds : List Char) (init : Nat) :
    ds.foldl (fun acc c => acc * 10 + (c.toNat - '0'.toNat)) init = Nat.ofDigitChars 10 ds init := by
  induction ds generalizing init with
  | nil => rfl
  | cons c ds ih => rw [List.foldl_cons, ih, Nat.ofDigitChars_cons, Nat.mul_comm]

/-- The check made on a numeral's digits: one at least, all ASCII digits, a value below `2 ^ 16`. -/
theorem digits_check_eq_some_iff (ds : List Char) (n : Nat) :
    (if (!ds.isEmpty && ds.all Char.isDigit) = true then
        if ds.foldl (fun acc c => acc * 10 + (c.toNat - '0'.toNat)) 0 < Nat.pow 2 16 then
          some (ds.foldl (fun acc c => acc * 10 + (c.toNat - '0'.toNat)) 0)
        else none
      else none) = some n ↔
      ds ≠ [] ∧ (∀ c ∈ ds, c.isDigit = true) ∧ Nat.ofDigitChars 10 ds 0 = n ∧ n < 65536 := by
  rw [foldl_digits]
  by_cases hds : (!ds.isEmpty && ds.all Char.isDigit) = true
  · have hds' : ds ≠ [] ∧ ∀ c ∈ ds, c.isDigit = true := by simpa using hds
    rw [if_pos hds]
    by_cases hlt : Nat.ofDigitChars 10 ds 0 < Nat.pow 2 16
    · have : Nat.pow 2 16 = 65536 := rfl
      rw [if_pos hlt, Option.some.injEq]
      constructor
      · rintro rfl
        exact ⟨hds'.1, hds'.2, rfl, by omega⟩
      · rintro ⟨-, -, rfl, -⟩
        rfl
    · rw [if_neg hlt]
      have : Nat.pow 2 16 = 65536 := rfl
      simp only [reduceCtorEq, false_iff]
      rintro ⟨-, -, rfl, hn⟩
      omega
  · rw [if_neg hds]
    simp only [reduceCtorEq, false_iff]
    rintro ⟨hne, hdig, -⟩
    exact hds (by simpa using ⟨hne, hdig⟩)

/-- The code of a text: some value exactly when the text is a numeral of at most 16 bits. -/
theorem parseCode_eq_some_iff (t : String) (n : Nat) :
    parseCode t = some n ↔ Numeral t n ∧ n < 65536 := by
  unfold parseCode
  dsimp only
  split
  · -- a leading `+`: the digits are the rest
    rename_i rest h
    rw [digits_check_eq_some_iff]
    constructor
    · rintro ⟨hne, hdig, hval, hlt⟩
      exact ⟨⟨rest, hne, hdig, .inr h, hval⟩, hlt⟩
    · rintro ⟨⟨ds, hne, hdig, hds | hds, hval⟩, hlt⟩
      · -- `+` is no digit, so the whole text is not the digits
        rw [h] at hds
        exact absurd (hdig '+' (by rw [← hds]; simp)) (by decide)
      · rw [h, List.cons.injEq] at hds
        rw [hds.2]
        exact ⟨hne, hdig, hval, hlt⟩
  · -- no leading `+`: the digits are the whole text
    rename_i cs h
    rw [digits_check_eq_some_iff]
    constructor
    · rintro ⟨hne, hdig, hval, hlt⟩
      exact ⟨⟨t.toList, hne, hdig, .inl rfl, hval⟩, hlt⟩
    · rintro ⟨⟨ds, hne, hdig, hds | hds, hval⟩, hlt⟩
      · rw [hds]
        exact ⟨hne, hdig, hval, hlt⟩
      · exact absurd hds (h ds)

/-- The refusal quotes the text as given. -/
theorem unknown_message (s : String) :
    s!"Unknown action kind: {s}" = "Unknown action kind: " ++ s := rfl

theorem parse_of_normal {s : String} (h : key s = "normal") : parse s = .ok normal := by
  unfold parse
  exact if_pos h

theorem parse_of_code {s : String} {n : Nat} (hword : key s ≠ "normal")
    (hcode : parseCode (key s) = some n) : parse s = .ok ⟨UInt16.ofNat n⟩ := by
  simp only [key] at hword hcode
  unfold parse
  dsimp only
  rw [if_neg hword, hcode]

theorem parse_of_no_code {s : String} (hword : key s ≠ "normal")
    (hcode : parseCode (key s) = none) : parse s = .error ("Unknown action kind: " ++ s) := by
  simp only [key] at hword hcode
  unfold parse
  dsimp only
  rw [if_neg hword, hcode, unknown_message]

/-- Reading succeeds on the word `normal` and on a numeral of at most 16 bits. -/
theorem parse_eq_ok_iff (s : String) (k : ActionKind) :
    parse s = .ok k ↔
      (key s = "normal" ∧ k = normal) ∨ ∃ n, Numeral (key s) n ∧ n < 65536 ∧ k = ⟨UInt16.ofNat n⟩ := by
  by_cases hword : key s = "normal"
  · rw [parse_of_normal hword, hword, Except.ok.injEq]
    constructor
    · rintro rfl
      exact .inl ⟨rfl, rfl⟩
    · rintro (⟨-, rfl⟩ | ⟨n, hn, -⟩)
      · rfl
      · exact absurd hn (not_numeral_normal n)
  · cases hcode : parseCode (key s) with
    | some n =>
        obtain ⟨hnum, hlt⟩ := (parseCode_eq_some_iff _ _).mp hcode
        rw [parse_of_code hword hcode, Except.ok.injEq]
        simp only [hword, false_and, false_or]
        constructor
        · rintro rfl
          exact ⟨n, hnum, hlt, rfl⟩
        · rintro ⟨m, hm, hlt', rfl⟩
          -- the code found is the value of the numeral
          rw [(parseCode_eq_some_iff _ _).mpr ⟨hm, hlt'⟩, Option.some.injEq] at hcode
          rw [hcode]
    | none =>
        rw [parse_of_no_code hword hcode]
        simp only [reduceCtorEq, hword, false_and, false_or, false_iff, not_exists, not_and]
        intro n hn hlt _
        rw [(parseCode_eq_some_iff _ _).mpr ⟨hn, hlt⟩] at hcode
        cases hcode

/-- Reading refuses, quoting the text, exactly what is neither `normal` nor a 16-bit numeral. -/
theorem parse_eq_error_iff (s e : String) :
    parse s = .error e ↔
      e = "Unknown action kind: " ++ s ∧ key s ≠ "normal" ∧ ∀ n, Numeral (key s) n → 65536 ≤ n := by
  by_cases hword : key s = "normal"
  · rw [parse_of_normal hword]
    simp [hword]
  · cases hcode : parseCode (key s) with
    | some n =>
        obtain ⟨hnum, hlt⟩ := (parseCode_eq_some_iff _ _).mp hcode
        rw [parse_of_code hword hcode]
        simp only [reduceCtorEq, false_iff, not_and]
        intro _ _ hall
        exact absurd (hall n hnum) (by omega)
    | none =>
        rw [parse_of_no_code hword hcode, Except.error.injEq]
        constructor
        · rintro rfl
          refine ⟨rfl, hword, fun n hn => ?_⟩
          -- a numeral below the bound would have been read
          by_contra hlt
          rw [(parseCode_eq_some_iff _ _).mpr ⟨hn, by omega⟩] at hcode
          cases hcode
        · rintro ⟨rfl, -, -⟩
          rfl

/-- A text of digits is read as it is. -/
theorem key_of_digits {s : String} (h : ∀ c ∈ s.toList, c.isDigit = true) : key s = s := by
  unfold key
  rw [Text.trimBlank_eq_self
      (fun c hc => (Text.digit_plain (h c (List.mem_of_mem_head? hc))).1)
      (fun c hc => (Text.digit_plain (h c (List.mem_of_mem_getLast? hc))).1),
    Text.asciiLower_eq_self (fun c hc => (Text.digit_plain (h c hc)).2)]

/-- The decimal text of a number is a numeral for it. -/
theorem numeral_toString (n : Nat) : Numeral (toString n) n :=
  ⟨Nat.toDigits 10 n, Nat.toDigits_ne_nil,
    fun _ hc => Nat.isDigit_of_mem_toDigits (by decide) (by decide) hc,
    .inl Nat.toList_repr, Nat.ofDigitChars_ten_toDigits⟩

/-- The decimal text of a code reads back as that code. -/
theorem parse_toString (n : UInt16) : parse (toString n) = .ok ⟨n⟩ := by
  have hkey : key (toString n) = toString n.toNat :=
    key_of_digits fun _ hc => Nat.isDigit_of_mem_toDigits (by decide) (by decide)
      (Nat.toList_repr ▸ hc)
  have hword : key (toString n) ≠ "normal" := by
    rw [hkey]
    intro h
    exact not_numeral_normal n.toNat (h ▸ numeral_toString n.toNat)
  have hcode : parseCode (key (toString n)) = some n.toNat := by
    rw [hkey, parseCode_eq_some_iff]
    exact ⟨numeral_toString n.toNat, n.toNat_lt⟩
  rw [parse_of_code hword hcode, UInt16.ofNat_toNat]

/-- A text whose first character is a plain letter other than `n` is refused. -/
theorem parse_of_head {s : String} {c : Char} {rest : List Char} (hs : s.toList = c :: rest)
    (hblank : Text.isBlank c = false) (hupper : c.isUpper = false) (hn : c ≠ 'n')
    (hplus : c ≠ '+') (hdigit : c.isDigit = false) :
    parse s = .error ("Unknown action kind: " ++ s) := by
  have hhead : (key s).toList.head? = some c := by
    rw [key, Text.toList_asciiLower, List.head?_map, Text.head?_trimBlank hs hblank,
      Option.map_some, Text.toLower_of_not_upper hupper]
  have hword : key s ≠ "normal" := by
    intro h
    rw [h] at hhead
    exact hn (Option.some.inj hhead).symm
  have hcode : parseCode (key s) = none := by
    cases hc : parseCode (key s) with
    | none => rfl
    | some m =>
        -- a numeral would start with `+` or a digit
        obtain ⟨d, rest', hd, hplusOrDigit⟩ := head_of_numeral ((parseCode_eq_some_iff _ _).mp hc).1
        rw [hd, List.head?_cons, Option.some.injEq] at hhead
        subst hhead
        rcases hplusOrDigit with h | h
        · exact absurd h hplus
        · rw [hdigit] at h
          cases h
  exact parse_of_no_code hword hcode

/-- The name an action is shown under reads back as that action only for the normal action. -/
theorem parse_display_iff (k : ActionKind) : parse k.display = .ok k ↔ k = normal := by
  constructor
  · intro h
    by_contra hk
    have hcode : k.code ≠ 0 := by
      intro h0
      apply hk
      cases k
      simp only at h0
      rw [h0]
      rfl
    -- any other action is shown as `action #n`, which starts with `a`
    have hdisp : k.display = "action #" ++ toString k.code := by
      simp only [display, hcode, if_false]
      rfl
    have hs : k.display.toList = 'a' :: ("ction #".toList ++ (toString k.code).toList) := by
      rw [hdisp, String.toList_append]
      rfl
    rw [parse_of_head hs (by decide) (by decide) (by decide) (by decide) (by decide)] at h
    cases h
  · rintro rfl
    decide

/-- Reading an action accepts exactly the word `normal` and the numerals of at most 16 bits,
after trimming and folding case, and refuses everything else with a message quoting the text as
given. The decimal text of every code reads back as that code; the name an action is shown under
reads back only for the normal action. -/
theorem action_kind_reading :
    (∀ s k, parse s = .ok k ↔
      (key s = "normal" ∧ k = normal) ∨ ∃ n, Numeral (key s) n ∧ n < 65536 ∧ k = ⟨UInt16.ofNat n⟩) ∧
    (∀ s e, parse s = .error e ↔
      e = "Unknown action kind: " ++ s ∧ key s ≠ "normal" ∧ ∀ n, Numeral (key s) n → 65536 ≤ n) ∧
    (∀ n : UInt16, parse (toString n) = .ok ⟨n⟩) ∧
    (∀ k, parse k.display = .ok k ↔ k = normal) :=
  ⟨parse_eq_ok_iff, parse_eq_error_iff, parse_toString, parse_display_iff⟩

/-! ## Full case folding -/

/-- The characters of the words an action is read as: the letters of `normal`, the ASCII digits
and `+`. -/
def WordChar (d : Char) : Prop := d ∈ "normal".toList ∨ d.isDigit = true ∨ d = '+'

theorem WordChar.ascii {d : Char} (h : WordChar d) : d.toNat < 128 := by
  rcases h with h | h | rfl
  · have hword : "normal".toList = ['n', 'o', 'r', 'm', 'a', 'l'] := by decide
    rw [hword] at h
    simp only [List.mem_cons, List.not_mem_nil, or_false] at h
    rcases h with rfl | rfl | rfl | rfl | rfl | rfl <;> decide
  · have hdigit : 48 ≤ d.toNat ∧ d.toNat ≤ 57 := Char.isDigit_iff_toNat.mp h
    omega
  · decide

theorem wordChar_of_normal {w : List Char} (h : String.ofList w = "normal") :
    ∀ d ∈ w, WordChar d := by
  intro d hd
  have hw : w = "normal".toList := by rw [← h, String.toList_ofList]
  rw [hw] at hd
  exact .inl hd

theorem wordChar_of_numeral {w : List Char} {n : Nat} (h : Numeral (String.ofList w) n) :
    ∀ d ∈ w, WordChar d := by
  obtain ⟨ds, -, hdig, hds, -⟩ := h
  rw [String.toList_ofList] at hds
  intro d hd
  rcases hds with rfl | rfl
  · exact .inr (.inl (hdig d hd))
  · rcases List.mem_cons.mp hd with rfl | hd
    · exact .inr (.inr rfl)
    · exact .inr (.inl (hdig d hd))

/-- Reading under full case folding accepts the same words. Let `fold` fold text as Unicode's
lowercasing does: ASCII text as ASCII folding does, and a text holding a character outside ASCII
into one holding a character that is not a letter of `normal`, an ASCII digit or `+`. Unicode's
table does so: the only characters outside ASCII it folds into ASCII letters are the Kelvin sign,
into `k`, and the capital I with a dot, into `i` and a combining dot, and a final sigma folds
into a small sigma of one of two forms. Then the trimmed text folded by `fold` is `normal`, or a
numeral of `n`, exactly when `key s` is, so `parse` reads every text as full folding would. -/
theorem key_full_fold {fold : List Char → List Char}
    (hascii : ∀ u, (∀ c ∈ u, c.toNat < 128) → fold u = u.map Char.toLower)
    (hother : ∀ u c, c ∈ u → 128 ≤ c.toNat → ∃ d ∈ fold u, ¬WordChar d) (s : String) :
    (String.ofList (fold (Text.trimBlank s).toList) = "normal" ↔ key s = "normal") ∧
      ∀ n, Numeral (String.ofList (fold (Text.trimBlank s).toList)) n ↔ Numeral (key s) n := by
  -- `key s` is the trimmed text folded character by character
  have hkey : key s = String.ofList ((Text.trimBlank s).toList.map Char.toLower) := rfl
  rw [hkey]
  exact ⟨Text.word_fold_iff (fun _ h => wordChar_of_normal h) (fun _ h => h.ascii) hascii hother _,
    fun n => Text.word_fold_iff (fun _ h => wordChar_of_numeral h) (fun _ h => h.ascii) hascii
      hother _⟩

end ActionKind

end Parley
