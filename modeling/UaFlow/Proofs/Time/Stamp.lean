import UaFlow.Time.Rfc3339
import UaFlow.Proofs.Text.Ascii
import UaFlow.Proofs.Text.Digits
import UaFlow.Proofs.Time.Calendar
import UaFlow.Proofs.Except
/-!
# Stamps read back

The RFC 3339 text of an instant whose year is in `0..9999` reads back as an instant with the same
text. It need not be the same instant: the text keeps milliseconds only, and a leap second that
does not end a minute is read as the next second. A year outside `0..9999` is written with a
sign, and the reader, which takes exactly four digits of year, refuses it.

The reader works on bytes; an ASCII text's bytes are its characters' codes, so each field of the
text, zero-padded to its width, reads back as its value.
-/

namespace UaFlow.Time

open UaFlow.Text

/-- The bytes of an ASCII text. -/
def asciiBytes (cs : List Char) : List UInt8 :=
  cs.map fun c => c.val.toUInt8

@[simp] theorem asciiBytes_append (cs ds : List Char) :
    asciiBytes (cs ++ ds) = asciiBytes cs ++ asciiBytes ds :=
  List.map_append

@[simp] theorem asciiBytes_cons (c : Char) (cs : List Char) :
    asciiBytes (c :: cs) = c.val.toUInt8 :: asciiBytes cs :=
  rfl

theorem isDigitByte_toUInt8 {c : Char} (hc : c.toNat < 128) : isDigitByte c.val.toUInt8 = c.isDigit := by
  have hbyte := toNat_toUInt8_of_lt hc
  have hdigit := @Char.isDigit_iff_toNat c
  unfold isDigitByte
  rw [Bool.eq_iff_iff, hdigit]
  simp only [decide_eq_true_eq, UInt8.le_iff_toNat_le, hbyte]
  exact Iff.rfl

/-- The digits of an ASCII text, as bytes, add up as the characters do. -/
theorem foldl_digitsValue {cs : List Char} (h : IsAscii cs) (acc : Nat) :
    (asciiBytes cs).foldl (fun n b => n * 10 + (b.toNat - 48)) acc = Nat.ofDigitChars 10 cs acc := by
  induction cs generalizing acc with
  | nil => rfl
  | cons c cs ih =>
    obtain ⟨hc, hcs⟩ := isAscii_cons.mp h
    rw [asciiBytes_cons, List.foldl_cons, ih hcs, Nat.ofDigitChars_cons, toNat_toUInt8_of_lt hc,
      Nat.mul_comm acc 10]
    rfl

/-! ## Zero-padded fields -/

theorem toList_padded (w n : Nat) :
    (padded w n).toList = List.replicate (w - (Nat.toDigits 10 n).length) '0' ++ Nat.toDigits 10 n := by
  simp [padded]

theorem isDigit_of_mem_padded {w n : Nat} {c : Char} (hc : c ∈ (padded w n).toList) : c.isDigit = true := by
  rw [toList_padded, List.mem_append] at hc
  rcases hc with hc | hc
  · rw [List.eq_of_mem_replicate hc]
    rfl
  · exact Nat.isDigit_of_mem_toDigits (by decide) (by decide) hc

theorem isAscii_padded (w n : Nat) : IsAscii (padded w n).toList := by
  intro c hc
  have hdigit := Char.isDigit_iff_toNat.mp (isDigit_of_mem_padded hc)
  exact Nat.lt_of_le_of_lt hdigit.2 (by decide)

theorem length_padded {w n : Nat} (hw : 0 < w) (h : n < Nat.pow 10 w) : (padded w n).toList.length = w := by
  have hlen := (Nat.length_toDigits_le_iff (b := 10) (by decide) hw).mpr (by simpa using h)
  rw [toList_padded, List.length_append, List.length_replicate]
  omega

theorem ofDigitChars_padded (w n : Nat) : Nat.ofDigitChars 10 (padded w n).toList 0 = n := by
  rw [toList_padded, Nat.ofDigitChars_append, Nat.ofDigitChars_replicate_zero, Nat.mul_zero,
    Nat.ofDigitChars_ten_toDigits]

/-- The bytes of a field of width `w` holding `n`. -/
def fieldBytes (w n : Nat) : List UInt8 :=
  asciiBytes (padded w n).toList

theorem isDigitByte_of_mem_fieldBytes {w n : Nat} {b : UInt8} (hb : b ∈ fieldBytes w n) :
    isDigitByte b = true := by
  obtain ⟨c, hc, rfl⟩ := List.mem_map.mp hb
  rw [isDigitByte_toUInt8 (isAscii_padded w n c hc)]
  exact isDigit_of_mem_padded hc

theorem digitsValue_fieldBytes (w n : Nat) : digitsValue (fieldBytes w n) = n := by
  rw [digitsValue, fieldBytes, foldl_digitsValue (isAscii_padded w n), ofDigitChars_padded]

theorem length_fieldBytes {w n : Nat} (hw : 0 < w) (h : n < Nat.pow 10 w) : (fieldBytes w n).length = w := by
  rw [fieldBytes, asciiBytes, List.length_map, length_padded hw h]

/-! ## Reading fields -/

/-- A run of digits, as long as a field may be and followed by a byte that is not a digit,
reads as its value. -/
theorem readNumber_digits {ds rest : List UInt8} {least most : Nat} (hds : ∀ b ∈ ds, isDigitByte b = true)
    (hrest : ∀ b ∈ rest.head?, isDigitByte b = false) (hl : least ≤ ds.length) (hm : ds.length ≤ most) :
    readNumber least most (ds ++ rest) = .ok (digitsValue ds, rest) := by
  -- the digits stop at the first byte of `rest`, whatever the bound lets through of it
  have hstop : ((rest.take (most - ds.length)).takeWhile isDigitByte) = [] := by
    cases rest with
    | nil => simp
    | cons b rest =>
      cases hk : most - ds.length with
      | zero => rfl
      | succ k => exact List.takeWhile_cons_of_neg (by simp [hrest b rfl])
  have htake : ((ds ++ rest).take most).takeWhile isDigitByte = ds := by
    rw [List.take_append, List.take_of_length_le hm, List.takeWhile_append_of_pos hds, hstop,
      List.append_nil]
  have hlen : ¬ (ds ++ rest).length < least := by
    rw [List.length_append]
    omega
  unfold readNumber
  rw [if_neg hlen]
  simp only [htake, if_neg (Nat.not_lt.mpr hl), List.drop_left']

theorem head_not_digit {c : UInt8} (hc : isDigitByte c = false) (rest : List UInt8) :
    ∀ b ∈ (c :: rest).head?, isDigitByte b = false := by
  intro b hb
  cases hb
  exact hc

theorem readNumber_fieldBytes {w n least most : Nat} {rest : List UInt8} (hw : 0 < w)
    (h : n < Nat.pow 10 w) (hl : least ≤ w) (hm : w ≤ most) (hrest : ∀ b ∈ rest.head?, isDigitByte b = false) :
    readNumber least most (fieldBytes w n ++ rest) = .ok (n, rest) := by
  rw [readNumber_digits (fun _ hb => isDigitByte_of_mem_fieldBytes hb) hrest
    (by rw [length_fieldBytes hw h]; exact hl) (by rw [length_fieldBytes hw h]; exact hm),
    digitsValue_fieldBytes]

theorem readByte_self (c : UInt8) (rest : List UInt8) : readByte c (c :: rest) = .ok rest := by
  simp [readByte]

/-- Three digits of milliseconds before the zone read as nanoseconds. -/
theorem readFraction_fieldBytes {ms : Nat} (h : ms < 1000) :
    readFraction (fieldBytes 3 ms ++ [90]) = .ok (ms * 1000000, [90]) := by
  unfold readFraction
  rw [readNumber_fieldBytes (by decide) h (by decide) (by decide) (head_not_digit (by decide) _)]
  simp [length_fieldBytes (show 0 < 3 by decide) h]
  rfl

theorem readZone_utc : readZone [90] = .ok (0, []) := rfl

theorem checkRange_ok {lo hi n : Nat} (h : lo ≤ n ∧ n ≤ hi) : checkRange lo hi n = .ok () := by
  rw [checkRange, if_pos h]

/-- **Reading a stamp.** A text whose bytes are a date, a `T`, a time of day in range and three
digits of milliseconds, zero-padded and separated as RFC 3339 has them, and then `Z`, reads as the
instant of that wall-clock time in universal time; second `60` is a leap second, held as second
`59` with a billion nanoseconds more. -/
theorem ofRfc3339_fields {s : String} {Y M D h mi sec ms : Nat}
    (hs : s.toUTF8.toList = fieldBytes 4 Y ++ 45 :: fieldBytes 2 M ++ 45 :: fieldBytes 2 D ++ 84 ::
      fieldBytes 2 h ++ 58 :: fieldBytes 2 mi ++ 58 :: fieldBytes 2 sec ++ 46 :: fieldBytes 3 ms ++ [90])
    (hY : Y < 10000) (hM : M < 100) (hD : D < 100) (hh : h ≤ 23) (hmi : mi ≤ 59) (hsec : sec ≤ 60)
    (hms : ms < 1000) (hvalid : (CivilDate.mk Y M D).isValid = true) :
    Instant.ofRfc3339 s = .ok ⟨(CivilDate.mk Y M D).toDays * 86400 +
      ((h * 3600 + mi * 60 + (if sec = 60 then 59 else sec) : Nat) : Int),
      if sec = 60 then ms * 1000000 + 1000000000 else ms * 1000000⟩ := by
  have hsec' : sec < Nat.pow 10 2 := Nat.lt_of_le_of_lt hsec (by decide)
  have hh' : h < Nat.pow 10 2 := Nat.lt_of_le_of_lt hh (by decide)
  have hmi' : mi < Nat.pow 10 2 := Nat.lt_of_le_of_lt hmi (by decide)
  have hlen : ¬ s.toUTF8.toList.length < 19 := by
    simp only [hs, List.length_append, List.length_cons, List.length_nil,
      length_fieldBytes (w := 4) (by decide) hY, length_fieldBytes (w := 2) (by decide) hM,
      length_fieldBytes (w := 2) (by decide) hD, length_fieldBytes (w := 2) (by decide) hh',
      length_fieldBytes (w := 2) (by decide) hmi', length_fieldBytes (w := 2) (by decide) hsec',
      length_fieldBytes (w := 3) (by decide) hms]
    omega
  unfold Instant.ofRfc3339
  rw [if_neg hlen, hs]
  simp only [List.append_assoc, List.cons_append]
  -- the date
  rw [readNumber_fieldBytes (by decide) hY (by decide) (by decide) (head_not_digit (by decide) _)]
  simp only [ok_bind, readByte_self]
  rw [readNumber_fieldBytes (by decide) hM (by decide) (by decide) (head_not_digit (by decide) _)]
  simp only [ok_bind, readByte_self]
  rw [readNumber_fieldBytes (by decide) hD (by decide) (by decide) (head_not_digit (by decide) _)]
  simp only [ok_bind, hvalid, if_true, true_or, pure_bind]
  -- the time of day
  rw [readNumber_fieldBytes (by decide) hh' (by decide) (by decide) (head_not_digit (by decide) _)]
  simp only [ok_bind, readByte_self]
  rw [readNumber_fieldBytes (by decide) hmi' (by decide) (by decide) (head_not_digit (by decide) _)]
  simp only [ok_bind, readByte_self]
  rw [readNumber_fieldBytes (by decide) hsec' (by decide) (by decide) (head_not_digit (by decide) _)]
  simp only [ok_bind, readFraction_fieldBytes hms, checkRange_ok ⟨Nat.zero_le h, hh⟩,
    checkRange_ok ⟨Nat.zero_le mi, hmi⟩, checkRange_ok ⟨Nat.zero_le sec, hsec⟩, readZone_utc]
  -- the zone is universal time and nothing follows it
  rw [if_pos List.isEmpty_nil, if_neg (by decide), Int.sub_zero]
  rfl
/-! ## The text of an instant -/

/-- The RFC 3339 text of a date, a time of day and milliseconds. -/
def stampText (date : CivilDate) (hour minute second milli : Nat) : String :=
  yearText date.year ++ "-" ++ padded 2 date.month ++ "-" ++ padded 2 date.day ++ "T" ++
    padded 2 hour ++ ":" ++ padded 2 minute ++ ":" ++ padded 2 second ++ "." ++ padded 3 milli ++ "Z"

/-- The year an instant is written with. -/
def Instant.year (t : Instant) : Int :=
  (CivilDate.ofDays (t.seconds.fdiv 86400)).year

/-- The second of the minute an instant shows: `60` in a leap second. -/
def Instant.shownSecond (t : Instant) : Nat :=
  (t.seconds.fmod 86400).toNat % 60 + if t.nanos ≥ 1000000000 then 1 else 0

theorem Instant.render_eq (t : Instant) :
    t.render = stampText (CivilDate.ofDays (t.seconds.fdiv 86400)) ((t.seconds.fmod 86400).toNat / 3600)
      ((t.seconds.fmod 86400).toNat / 60 % 60) t.shownSecond (t.nanos % 1000000000 / 1000000) :=
  rfl

theorem toList_stampText_of_le {date : CivilDate} (hy : 0 ≤ date.year ∧ date.year ≤ 9999)
    (hour minute second milli : Nat) :
    (stampText date hour minute second milli).toList = (padded 4 date.year.toNat).toList ++
      '-' :: (padded 2 date.month).toList ++ '-' :: (padded 2 date.day).toList ++ 'T' ::
      (padded 2 hour).toList ++ ':' :: (padded 2 minute).toList ++ ':' :: (padded 2 second).toList ++
      '.' :: (padded 3 milli).toList ++ ['Z'] := by
  simp [stampText, yearText, if_pos hy]

theorem stampText_bytes {date : CivilDate} (hy : 0 ≤ date.year ∧ date.year ≤ 9999)
    (hour minute second milli : Nat) :
    (stampText date hour minute second milli).toUTF8.toList = fieldBytes 4 date.year.toNat ++
      45 :: fieldBytes 2 date.month ++ 45 :: fieldBytes 2 date.day ++ 84 :: fieldBytes 2 hour ++
      58 :: fieldBytes 2 minute ++ 58 :: fieldBytes 2 second ++ 46 :: fieldBytes 3 milli ++ [90] := by
  have hascii : IsAscii (stampText date hour minute second milli).toList := by
    rw [toList_stampText_of_le hy]
    simp only [isAscii_append, isAscii_cons, isAscii_padded, isAscii_nil, and_true, true_and]
    decide
  rw [toUTF8_toList_of_isAscii hascii]
  change asciiBytes _ = _
  rw [toList_stampText_of_le hy]
  simp only [fieldBytes, asciiBytes_append, asciiBytes_cons]
  rfl

theorem daysInMonth_le (y : Int) (m : Nat) : daysInMonth y m ≤ 31 := by
  unfold daysInMonth
  split
  · split <;> omega
  all_goals omega

/-- A day number and a time of day inside that day, as seconds. -/
theorem fdiv_fmod_of_lt {n : Int} {w : Nat} (hw : w < 86400) :
    (n * 86400 + (w : Int)).fdiv 86400 = n ∧ ((n * 86400 + (w : Int)).fmod 86400).toNat = w := by
  rw [Int.fdiv_eq_ediv_of_nonneg _ (by decide), Int.fmod_eq_emod_of_nonneg _ (by decide)]
  omega

/-- **Stamps read back.** The text of an instant whose year has four digits reads as an instant
with the same text. -/
theorem Instant.ofRfc3339_render {t : Instant} (hy : 0 ≤ t.year ∧ t.year ≤ 9999) :
    ∃ t', Instant.ofRfc3339 t.render = .ok t' ∧ t'.render = t.render := by
  -- the day number and the time of day of `t`
  obtain ⟨n, hn⟩ : ∃ n, t.seconds.fdiv 86400 = n := ⟨_, rfl⟩
  obtain ⟨ofDay, hofDay⟩ : ∃ ofDay, (t.seconds.fmod 86400).toNat = ofDay := ⟨_, rfl⟩
  have hday : ofDay < 86400 := by
    rw [← hofDay, Int.fmod_eq_emod_of_nonneg _ (by decide)]
    omega
  unfold Instant.year at hy
  rw [hn] at hy
  generalize hdate : CivilDate.ofDays n = date at hy
  have hvalid : date.isValid = true := hdate ▸ CivilDate.isValid_ofDays n
  have hdays : date.toDays = n := hdate ▸ CivilDate.toDays_ofDays n
  have hmonth : date.month ≤ 12 ∧ date.day ≤ 31 := by
    unfold CivilDate.isValid at hvalid
    simp only [decide_eq_true_eq] at hvalid
    exact ⟨hvalid.2.1, Nat.le_trans hvalid.2.2.2 (daysInMonth_le _ _)⟩
  have hyear : CivilDate.mk (date.year.toNat : Int) date.month date.day = date := by
    rw [Int.toNat_of_nonneg hy.1]
  have hsecond : t.shownSecond ≤ 60 := by
    unfold Instant.shownSecond
    split <;> omega
  have hread := ofRfc3339_fields (stampText_bytes hy (ofDay / 3600) (ofDay / 60 % 60) t.shownSecond
    (t.nanos % 1000000000 / 1000000)) (by omega) (by omega) (by omega) (by omega) (by omega) hsecond
    (by omega) (hyear ▸ hvalid)
  rw [hyear, hdays] at hread
  refine ⟨_, by rw [Instant.render_eq, hn, hofDay, hdate]; exact hread, ?_⟩
  -- the text read back shows the same fields: a leap second that does not end a minute is read
  -- as the next second, which shows the same digits
  have hshown : t.shownSecond = ofDay % 60 + if t.nanos ≥ 1000000000 then 1 else 0 := by
    rw [Instant.shownSecond, hofDay]
  have hw : (ofDay / 3600 * 3600 + ofDay / 60 % 60 * 60 +
      if t.shownSecond = 60 then 59 else t.shownSecond) < 86400 := by
    rw [hshown]
    split <;> split <;> omega
  obtain ⟨hdiv, hmod⟩ := fdiv_fmod_of_lt (n := n) hw
  rw [Instant.render_eq, Instant.render_eq, hdiv, hmod, hn, hofDay, hdate]
  generalize t.shownSecond = sec at hshown hw hmod ⊢
  unfold Instant.shownSecond
  dsimp only
  rw [hmod]
  have hleap : (if t.nanos ≥ 1000000000 then 1 else 0) ≤ 1 := by split <;> omega
  congr 1
  · split <;> omega
  · split <;> omega
  · split <;> split <;> omega
  · split <;> omega

/-! ## Years without four digits -/

theorem readNumber_error_of_head {least most : Nat} {b : UInt8} {rest : List UInt8} (hl : 0 < least)
    (hb : isDigitByte b = false) : ∃ e, readNumber least most (b :: rest) = .error e := by
  have hnone : ((b :: rest).take most).takeWhile isDigitByte = [] := by
    cases most with
    | zero => rfl
    | succ most => exact List.takeWhile_cons_of_neg (by simp [hb])
  unfold readNumber
  split
  · exact ⟨_, rfl⟩
  · simp only [hnone, List.length_nil, if_pos hl]
    exact ⟨_, rfl⟩

/-- A text that does not start with a digit is no stamp. -/
theorem ofRfc3339_error_of_head {s : String} {b : UInt8} {rest : List UInt8}
    (hs : s.toUTF8.toList = b :: rest) (hb : isDigitByte b = false) : ∃ e, Instant.ofRfc3339 s = .error e := by
  obtain ⟨e, he⟩ := @readNumber_error_of_head 4 4 b rest (by decide) hb
  unfold Instant.ofRfc3339
  rw [hs]
  simp only [he, error_bind]
  split
  · exact ⟨_, rfl⟩
  · exact ⟨_, rfl⟩

theorem toList_stampText (date : CivilDate) (hour minute second milli : Nat) :
    (stampText date hour minute second milli).toList = (yearText date.year).toList ++
      '-' :: (padded 2 date.month).toList ++ '-' :: (padded 2 date.day).toList ++ 'T' ::
      (padded 2 hour).toList ++ ':' :: (padded 2 minute).toList ++ ':' :: (padded 2 second).toList ++
      '.' :: (padded 3 milli).toList ++ ['Z'] := by
  simp only [stampText, String.toList_append]
  simp

theorem toList_yearText_of_not_le {y : Int} (hy : ¬ (0 ≤ y ∧ y ≤ 9999)) :
    (yearText y).toList = (if y < 0 then '-' else '+') :: (padded 4 y.natAbs).toList := by
  rw [yearText, if_neg hy]
  split <;> simp

theorem toList_yearText_ne_nil (y : Int) : (yearText y).toList ≠ [] := by
  by_cases hy : 0 ≤ y ∧ y ≤ 9999
  · rw [yearText, if_pos hy, toList_padded]
    simp
  · rw [toList_yearText_of_not_le hy]
    exact List.cons_ne_nil _ _

/-- A year is written in digits after an optional sign. -/
theorem mem_yearText {y : Int} {c : Char} (hc : c ∈ (yearText y).toList) :
    c.isDigit = true ∨ c = '-' ∨ c = '+' := by
  by_cases hy : 0 ≤ y ∧ y ≤ 9999
  · rw [yearText, if_pos hy] at hc
    exact .inl (isDigit_of_mem_padded hc)
  · rw [toList_yearText_of_not_le hy, List.mem_cons] at hc
    rcases hc with rfl | hc
    · split
      · exact .inr (.inl rfl)
      · exact .inr (.inr rfl)
    · exact .inl (isDigit_of_mem_padded hc)

/-- The text of an instant is digits, signs and the separators of the layout. -/
theorem mem_stampText (date : CivilDate) (hour minute second milli : Nat) :
    ∀ c ∈ (stampText date hour minute second milli).toList,
      c.isDigit = true ∨ c ∈ ['-', '+', 'T', ':', '.', 'Z'] := by
  have hyear : ∀ c ∈ (yearText date.year).toList, c.isDigit = true ∨ c ∈ ['-', '+', 'T', ':', '.', 'Z'] := by
    intro c hc
    rcases mem_yearText hc with h | rfl | rfl
    · exact .inl h
    all_goals decide
  have hpadded (w n : Nat) :
      ∀ c ∈ (padded w n).toList, c.isDigit = true ∨ c ∈ ['-', '+', 'T', ':', '.', 'Z'] :=
    fun _ hc => .inl (isDigit_of_mem_padded hc)
  rw [toList_stampText]
  simp only [List.forall_mem_append, List.forall_mem_cons, List.not_mem_nil, false_implies,
    implies_true, and_true]
  and_intros
  · exact hyear
  -- the fields are digits; the separators are closed terms
  all_goals first
    | exact hpadded _ _
    | decide

theorem isAscii_stampText (date : CivilDate) (hour minute second milli : Nat) :
    IsAscii (stampText date hour minute second milli).toList := by
  intro c hc
  rcases mem_stampText date hour minute second milli c hc with h | h
  · exact Nat.lt_of_le_of_lt (Char.isDigit_iff_toNat.mp h).2 (by decide)
  · simp only [List.mem_cons, List.mem_nil_iff, or_false] at h
    rcases h with rfl | rfl | rfl | rfl | rfl | rfl <;> decide

/-- A year outside `0..9999` is written with a sign, which the reader refuses. -/
theorem ofRfc3339_stampText_error {date : CivilDate} (hy : ¬ (0 ≤ date.year ∧ date.year ≤ 9999))
    (hour minute second milli : Nat) :
    ∃ e, Instant.ofRfc3339 (stampText date hour minute second milli) = .error e := by
  have hbytes := toUTF8_toList_of_isAscii (isAscii_stampText date hour minute second milli)
  rw [toList_stampText, toList_yearText_of_not_le hy] at hbytes
  simp only [List.cons_append, List.map_cons] at hbytes
  refine ofRfc3339_error_of_head hbytes ?_
  split <;> decide

/-- The text of an instant is no integer: a `T` separates its date from its time. -/
theorem readIntegerIn_stampText (date : CivilDate) (hour minute second milli : Nat) (lo hi : Int) :
    UaFlow.Float.readIntegerIn lo hi (stampText date hour minute second milli) = none := by
  have hT : 'T' ∈ (stampText date hour minute second milli).toList.tail := by
    obtain ⟨c, cs, hcs⟩ := List.exists_cons_of_ne_nil (toList_yearText_ne_nil date.year)
    rw [toList_stampText, hcs]
    simp
  exact UaFlow.Float.readIntegerIn_eq_none_of_mem hT (by decide) lo hi

/-- The text of an instant is its own trim: it starts with a digit or a sign and ends with `Z`. -/
theorem trim_stampText (date : CivilDate) (hour minute second milli : Nat) :
    trim (stampText date hour minute second milli) = stampText date hour minute second milli := by
  apply trim_eq_self
  · intro c hc
    obtain ⟨d, ds, hds⟩ := List.exists_cons_of_ne_nil (toList_yearText_ne_nil date.year)
    rw [toList_stampText, hds] at hc
    simp only [List.cons_append, List.head?_cons, Option.mem_def, Option.some.injEq] at hc
    subst hc
    have hd : d ∈ (yearText date.year).toList := by
      rw [hds]
      exact List.mem_cons_self
    rcases mem_yearText hd with h | rfl | rfl
    · exact isBlank_of_isDigit h
    all_goals decide
  · intro c hc
    rw [toList_stampText, List.getLast?_concat, Option.mem_def, Option.some.injEq] at hc
    subst hc
    decide

end UaFlow.Time
