import Mathlib.Tactic.SplitIfs
import Promptsmith.Json

/-!
# What is written is read

A string is read back from its written form, whatever characters it holds, and a whole number from
its digits, unless they are too many. `Spells` says so of a value and a text, with any text after it
that cannot belong to a number; a list of texts that spell values, one a line, spells their list.
-/
namespace Promptsmith.Json

variable {mode : Mode}

/-! ### Strings -/

theorem hexValue?_hexDigit {n : Nat} (h : n < 16) : hexValue? (Text.hexDigit n) = some n := by
  revert n
  decide

theorem codeUnit?_hex {n : Nat} (h : n < 0x10000) (next : Char) (r : List Char) :
    codeUnit? (Text.hex 4 n ++ next :: r) = some (n, next :: r) := by
  have hdigits : Text.hex 4 n = [Text.hexDigit (n / 16 / 16 / 16 % 16),
      Text.hexDigit (n / 16 / 16 % 16), Text.hexDigit (n / 16 % 16), Text.hexDigit (n % 16)] := rfl
  have hvalue (m : Nat) : hexValue? (Text.hexDigit (m % 16)) = some (m % 16) :=
    hexValue?_hexDigit (Nat.mod_lt m (by decide))
  rw [hdigits]
  simp only [List.cons_append, List.nil_append, codeUnit?, hvalue, Option.some.injEq,
    Prod.mk.injEq, and_true]
  omega

theorem readChar_writeChar (c next : Char) (r : List Char) :
    readChar mode (writeChar c ++ next :: r) = .ok (c, next :: r) := by
  unfold writeChar
  by_cases hquote : c = '"'
  · subst hquote
    rfl
  by_cases hslash : c = '\\'
  · subst hslash
    rfl
  by_cases hfeed : c = '\n'
  · subst hfeed
    rfl
  by_cases hreturn : c = '\r'
  · subst hreturn
    rfl
  by_cases htab : c = '\t'
  · subst htab
    rfl
  by_cases hback : c = '\x08'
  · subst hback
    rfl
  by_cases hform : c = '\x0c'
  · subst hform
    rfl
  rw [if_neg hquote, if_neg hslash, if_neg hfeed, if_neg hreturn, if_neg htab, if_neg hback,
    if_neg hform]
  by_cases hcontrol : c.toNat < 0x20
  · have hunit := codeUnit?_hex (Nat.lt_trans hcontrol (by decide)) next r
    have hhigh : isHighSurrogate c.toNat = false := by
      simp only [isHighSurrogate, Bool.and_eq_false_iff, decide_eq_false_iff_not]
      omega
    have hlow : isLowSurrogate c.toNat = false := by
      simp only [isLowSurrogate, Bool.and_eq_false_iff, decide_eq_false_iff_not]
      omega
    rw [if_pos hcontrol]
    change readCodeUnits mode ('u' :: (Text.hex 4 c.toNat ++ next :: r)) = _
    rw [readCodeUnits, List.tail_cons, hunit]
    simp [hhigh, hlow, Char.ofNat_toNat]
  · rw [if_neg hcontrol, List.singleton_append]
    unfold readChar
    split
    · next heq => exact absurd (List.cons.inj heq).1 hslash
    · next heq => exact absurd (List.cons.inj heq).1 hslash
    · next heq =>
      obtain ⟨rfl, rfl⟩ := List.cons.inj heq
      rw [if_neg hcontrol]
    · next heq => cases heq

theorem hexDigit_ne_return {n : Nat} (h : n < 16) : Text.hexDigit n ≠ '\r' := by
  revert n
  decide

theorem return_notMem_hex (width n : Nat) : '\r' ∉ Text.hex width n := by
  induction width generalizing n with
  | zero => exact List.not_mem_nil
  | succ width ih =>
    rw [Text.hex, List.mem_append, List.mem_singleton]
    rintro (h | h)
    · exact ih _ h
    · exact hexDigit_ne_return (Nat.mod_lt n (by decide)) h.symm

theorem return_notMem_writeChar (c : Char) : '\r' ∉ writeChar c := by
  unfold writeChar
  split_ifs with _ _ _ hreturn
  case neg => rwa [List.mem_singleton, eq_comm]
  all_goals first | decide | simp [return_notMem_hex]

/-- A written character does not start like the end of a string. -/
theorem exists_writeChar (c : Char) : ∃ d more, writeChar c = d :: more ∧ d ≠ '"' := by
  unfold writeChar
  split_ifs with hquote
  case neg => exact ⟨c, [], rfl, hquote⟩
  all_goals exact ⟨'\\', _, rfl, by decide⟩

theorem readChars_write (start : List Char) {cs : List Char} {fuel : Nat}
    (h : (cs.flatMap writeChar).length < fuel) (rest : List Char) :
    readChars mode start fuel (cs.flatMap writeChar ++ '"' :: rest) = .ok (cs, rest) := by
  induction cs generalizing fuel with
  | nil =>
    obtain ⟨fuel, rfl⟩ := Nat.exists_eq_add_one.mpr h
    rfl
  | cons c cs ih =>
    obtain ⟨fuel, rfl⟩ := Nat.exists_eq_add_one.mpr (Nat.zero_lt_of_lt h)
    -- A closing quote follows the characters, so the reader never sees a backslash alone.
    obtain ⟨next, r, hnext⟩ : ∃ next r, cs.flatMap writeChar ++ '"' :: rest = next :: r :=
      List.exists_cons_of_ne_nil (by simp)
    obtain ⟨d, more, hwrite, hquote⟩ := exists_writeChar c
    have hread : readChar mode (writeChar c ++ next :: r) = .ok (c, next :: r) :=
      readChar_writeChar c next r
    rw [List.flatMap_cons, hwrite, List.cons_append, List.length_cons, List.length_append] at h
    rw [List.flatMap_cons, List.append_assoc, hnext, readChars, hread, ← hnext]
    · dsimp only
      rw [ih (by omega)]
      rfl
    · simp
    · simpa [hwrite] using hquote
    · simp [hwrite]

theorem readString_write (s : String) (rest : List Char) :
    readString mode (s.toList.flatMap writeChar ++ '"' :: rest) = .ok (s, rest) := by
  rw [readString, readChars_write]
  · exact congrArg (fun t => Except.ok (t, rest)) String.ofList_toList
  · rw [List.length_append]
    omega

theorem return_notMem_writeString (s : String) : '\r' ∉ writeString s := by
  simp [writeString, return_notMem_writeChar]

/-! ### Whole numbers -/

theorem exists_toDigits {n : Nat} (h : 0 < n) :
    ∃ c r, Nat.toDigits 10 n = c :: r ∧ c ≠ '0' := by
  induction n using Nat.strongRecOn with
  | ind n ih =>
    by_cases hsmall : n < 10
    · rw [Nat.toDigits_of_lt_base hsmall]
      have hdigit : ∀ d < 10, 0 < d → d.digitChar ≠ '0' := by decide
      exact ⟨_, [], rfl, hdigit n hsmall h⟩
    · rw [Nat.not_lt] at hsmall
      obtain ⟨c, r, heq, hc⟩ := ih (n / 10) (by omega) (by omega)
      rw [Nat.toDigits_of_base_le (by decide) hsmall, heq]
      exact ⟨c, _, rfl, hc⟩

theorem isDigit_of_mem_toDigits {n : Nat} : ∀ c ∈ Nat.toDigits 10 n, c.isDigit = true := by
  intro c hc
  exact Nat.isDigit_of_mem_toDigits (by decide) (by decide) hc

theorem ofDigits_toDigits (n : Nat) :
    Decimal.ofDigits ((Nat.toDigits 10 n).filterMap Text.asciiDigit?) = n := by
  have hfold (cs : List Char) (hcs : ∀ c ∈ cs, c.isDigit = true) (m : Nat) :
      (cs.filterMap Text.asciiDigit?).foldl (fun n d => n * 10 + d) m =
        Nat.ofDigitChars 10 cs m := by
    induction cs generalizing m with
    | nil => rfl
    | cons c cs ih =>
      rw [List.forall_mem_cons] at hcs
      have hc : Text.asciiDigit? c = some (c.toNat - 0x30) := if_pos hcs.1
      rw [List.filterMap_cons_some hc, List.foldl_cons, ih hcs.2, Nat.ofDigitChars_cons,
        Nat.mul_comm m 10]
      rfl
  exact (hfold _ isDigit_of_mem_toDigits 0).trans Nat.ofDigitChars_ten_toDigits

/-- A text that cannot go on with a value before it: the next entry, or the end of the line. -/
inductive Closes : List Char → Prop
  | comma (r : List Char) : Closes (',' :: r)
  | line (r : List Char) : Closes ('\n' :: r)

theorem takeNumber?_toDigits {n : Nat} (h : 0 < n) {rest : List Char} (hrest : Closes rest) :
    takeNumber? (Nat.toDigits 10 n ++ rest) =
      some (⟨false, Nat.toDigits 10 n, none, none⟩, rest) := by
  obtain ⟨c, r, heq, hzero⟩ := exists_toDigits h
  have hdigits : ∀ d ∈ Nat.toDigits 10 n, d.isDigit = true := isDigit_of_mem_toDigits
  have hhyphen : c ≠ '-' := by
    rintro rfl
    exact absurd (hdigits '-' (heq ▸ List.mem_cons_self)) (by decide)
  have hstop : rest.takeWhile Char.isDigit = [] ∧ rest.dropWhile Char.isDigit = rest := by
    cases hrest <;> exact ⟨rfl, rfl⟩
  have hwhole : takeWhole (Nat.toDigits 10 n ++ rest) = (Nat.toDigits 10 n, rest) := by
    rw [heq, List.cons_append, takeWhole, ← List.cons_append, ← heq,
      List.takeWhile_append_of_pos hdigits, List.dropWhile_append_of_pos hdigits, hstop.1, hstop.2,
      List.append_nil]
    intro r' heq'
    exact hzero (List.cons.inj heq').1
  have hfraction : takeFraction rest = (none, rest) := by cases hrest <;> rfl
  have hexponent : takeExponent rest = (none, rest) := by cases hrest <;> rfl
  have hempty : (Nat.toDigits 10 n).isEmpty = false := by rw [heq]; rfl
  unfold takeNumber?
  split
  next negative s hsign =>
    split at hsign
    · next r' hminus =>
      rw [heq] at hminus
      exact absurd (List.cons.inj hminus).1 hhyphen
    · cases hsign
      simp [hwhole, hempty, hfraction, hexponent]

theorem readWord?_eq_none {c : Char} (hc : c.isDigit = true) (s : List Char) :
    readWord? (c :: s) = none := by
  have hwords : ∀ entry ∈ words, ∃ d r, entry.1.toList = d :: r ∧ d.isDigit = false := by
    simp [words]
  rw [readWord?, List.findSome?_eq_none_iff]
  intro entry hentry
  obtain ⟨d, r, hword, hd⟩ := hwords entry hentry
  have hne : (d == c) = false := by
    rw [beq_eq_false_iff_ne]
    rintro rfl
    rw [hc] at hd
    cases hd
  simp only [hword, List.isPrefixOf, hne, Bool.false_and, Bool.false_eq_true, if_false]

/-! ### Values -/

/-- The text is read as the value, whatever closes it, with a bound of its length or more. It does
not start with white space, and there is no carriage return in it. -/
structure Spells (mode : Mode) (cs : List Char) (v : Value) : Prop where
  head : ∃ c r, cs = c :: r ∧ isBlank c = false
  noReturn : '\r' ∉ cs
  read : ∀ fuel rest, cs.length ≤ fuel → Closes rest →
    readValue mode fuel (cs ++ rest) = .ok (v, rest)

theorem writeString_append (s : String) (rest : List Char) :
    writeString s ++ rest = '"' :: (s.toList.flatMap writeChar ++ '"' :: rest) := by
  rw [writeString, List.cons_append, List.cons_append, List.append_assoc, List.singleton_append]

theorem spells_writeString (s : String) : Spells mode (writeString s) (.text s) := by
  refine ⟨⟨'"', _, rfl, by decide⟩, return_notMem_writeString s, ?_⟩
  intro fuel rest hfuel hrest
  obtain ⟨fuel, rfl⟩ := Nat.exists_eq_add_one.mpr (Nat.lt_of_lt_of_le (Nat.succ_pos _) hfuel)
  rw [writeString_append, readValue, readString_write]
  rfl

theorem spells_toDigits {n : Nat} (h : 0 < n)
    (hlength : (Nat.toDigits 10 n).length ≤ Decimal.maxDigits) :
    Spells mode (Nat.toDigits 10 n) (.int n) := by
  obtain ⟨c, r, heq, hzero⟩ := exists_toDigits h
  have hdigit : c.isDigit = true := isDigit_of_mem_toDigits c (heq ▸ List.mem_cons_self)
  have hother {d : Char} (hd : d.isDigit = false) : c ≠ d := by
    rintro rfl
    rw [hdigit] at hd
    cases hd
  refine ⟨⟨c, r, heq, ?_⟩, ?_, ?_⟩
  · simp [isBlank, hother]
  · intro hreturn
    exact absurd (isDigit_of_mem_toDigits _ hreturn) (by decide)
  intro fuel rest hfuel hrest
  rw [heq] at hfuel
  obtain ⟨fuel, rfl⟩ := Nat.exists_eq_add_one.mpr (Nat.lt_of_lt_of_le (Nat.succ_pos _) hfuel)
  have hnumber : readNumber mode (Nat.toDigits 10 n ++ rest) = .ok (.int n, rest) := by
    have hmode : Number.length mode ⟨false, Nat.toDigits 10 n, none, none⟩ =
        (Nat.toDigits 10 n).length := by cases mode <;> rfl
    rw [readNumber, takeNumber?_toDigits h hrest]
    dsimp only
    rw [hmode, if_neg (Nat.not_lt.mpr hlength)]
    exact congrArg (fun m : Nat => Except.ok (Value.int m, rest)) (ofDigits_toDigits n)
  rw [heq, List.cons_append] at hnumber ⊢
  rw [readValue, readWord?_eq_none hdigit]
  · exact hnumber
  · exact nofun
  all_goals
    intro r' heq'
    exact hother rfl (List.cons.inj heq').1

/-! ### Lists and objects, an entry a line -/

theorem notMem_intercalate {c : Char} {separator : List Char} (hseparator : c ∉ separator)
    {ls : List (List Char)} (hls : ∀ l ∈ ls, c ∉ l) : c ∉ separator.intercalate ls := by
  induction ls with
  | nil => exact List.not_mem_nil
  | cons l ls ih =>
    rw [List.forall_mem_cons] at hls
    by_cases hnil : ls = []
    · subst hnil
      rw [List.intercalate_singleton]
      exact hls.1
    · rw [List.intercalate_cons_of_ne_nil hnil, List.mem_append, List.mem_append]
      exact fun h => h.elim (fun h => h.elim hls.1 hseparator) (ih hls.2)

section

variable {cs more r rest : List Char} {v : Value} {vs : List Value} {es : List (String × Value)}
  {fuel : Nat}

theorem Spells.skipBlanks (h : Spells mode cs v) (rest : List Char) :
    Json.skipBlanks (cs ++ rest) = cs ++ rest := by
  obtain ⟨c, r, rfl, hblank⟩ := h.head
  rw [List.cons_append, Json.skipBlanks, List.dropWhile_cons_of_neg (by simp [hblank])]

theorem readItems_last (h : Spells mode cs v) (hfuel : cs.length ≤ fuel)
    (hclose : Json.skipBlanks more = ']' :: rest) :
    readItems mode (fuel + 1) (cs ++ '\n' :: more) = .ok ([v], rest) := by
  have hskip : Json.skipBlanks ('\n' :: more) = ']' :: rest := hclose
  rw [readItems, h.read fuel _ hfuel (.line _)]
  dsimp only
  rw [hskip]
  rfl

theorem readItems_next (h : Spells mode cs v) (hfuel : cs.length ≤ fuel)
    (hmore : readItems mode fuel (Json.skipBlanks more) = .ok (vs, rest)) :
    readItems mode (fuel + 1) (cs ++ ',' :: '\n' :: more) = .ok (v :: vs, rest) := by
  rw [readItems, h.read fuel _ hfuel (.comma _)]
  change (readItems mode fuel (Json.skipBlanks more)).map _ = _
  rw [hmore]
  rfl

/-- No item starts with the end of the list. -/
theorem readItems_close (mode : Mode) (fuel : Nat) (r : List Char) :
    readItems mode fuel (']' :: r) = .error ⟨.noValue, ']' :: r⟩ := by
  match fuel with
  | 0 => rfl
  | 1 => rfl
  | fuel + 2 => rfl

theorem readValue_list (h : readItems mode fuel (Json.skipBlanks r) = .ok (vs, rest)) :
    readValue mode (fuel + 1) ('[' :: r) = .ok (.list vs, rest) := by
  rw [readValue]
  split
  · next hclose =>
    rw [hclose, readItems_close] at h
    cases h
  · rw [h]
    rfl

theorem readMembers_last (name : String) (h : Spells mode cs v) (hfuel : cs.length ≤ fuel)
    (hclose : Json.skipBlanks more = '\x7d' :: rest) :
    readMembers mode (fuel + 1) (writeString name ++ ':' :: ' ' :: (cs ++ '\n' :: more)) =
      .ok ([(name, v)], rest) := by
  have hcolon (r : List Char) : Json.skipBlanks (':' :: r) = ':' :: r := rfl
  have hvalue : Json.skipBlanks (' ' :: (cs ++ '\n' :: more)) = cs ++ '\n' :: more :=
    h.skipBlanks _
  have hskip : Json.skipBlanks ('\n' :: more) = '\x7d' :: rest := hclose
  rw [writeString_append, readMembers, readString_write]
  simp only [hcolon, hvalue, h.read fuel _ hfuel (.line _), hskip]

theorem readMembers_next (name : String) (h : Spells mode cs v) (hfuel : cs.length ≤ fuel)
    (hmore : readMembers mode fuel (Json.skipBlanks more) = .ok (es, rest)) :
    readMembers mode (fuel + 1) (writeString name ++ ':' :: ' ' :: (cs ++ ',' :: '\n' :: more)) =
      .ok ((name, v) :: es, rest) := by
  have hcolon (r : List Char) : Json.skipBlanks (':' :: r) = ':' :: r := rfl
  have hvalue : Json.skipBlanks (' ' :: (cs ++ ',' :: '\n' :: more)) = cs ++ ',' :: '\n' :: more :=
    h.skipBlanks _
  rw [writeString_append, readMembers, readString_write]
  simp only [hcolon, hvalue, h.read fuel _ hfuel (.comma _)]
  change (readMembers mode fuel (Json.skipBlanks more)).map _ = _
  rw [hmore]
  rfl

theorem readValue_object (h : readMembers mode fuel (Json.skipBlanks r) = .ok (es, rest)) :
    readValue mode (fuel + 1) ('\x7b' :: r) = .ok (.map (Fields.ofEntries es), rest) := by
  rw [readValue]
  split
  · next hclose =>
    rw [hclose] at h
    cases fuel <;> cases h
  · rw [h]
    rfl

end

end Promptsmith.Json
