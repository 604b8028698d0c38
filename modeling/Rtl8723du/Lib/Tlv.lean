import Rtl8723du.Lib.Walk

/-!
# Searches in type-length-value strings

A string of records, each a header with an id and the length of the value behind it.  `find`
is the first record of an id that lies wholly inside the string.  A search that steps from
record to record with a 16-bit step finds the same, unless a length is so large that the step
wraps: `SearchOk` says what must not happen then, and `SearchLoop.returns_find` and
`SearchLoop.searchOk` are the two directions.
-/

namespace Lib.Tlv

/-- How a record is read at an offset. -/
structure Format where
  /-- The size of the header. -/
  hdr : ℕ
  id : List UInt8 → ℕ → ℕ
  /-- The length of the value. -/
  len : List UInt8 → ℕ → ℕ
  hdr_pos : 0 < hdr

/-- How a search ends. -/
inductive Outcome
  | notFound
  | found (off len : ℕ)
  /-- A byte outside of the string was read. -/
  | outside
deriving DecidableEq, Repr

/-- The outcome of a search that finds what is there. -/
def Outcome.ofOption : Option (ℕ × ℕ) → Outcome
  | none => .notFound
  | some (off, len) => .found off len

namespace Format

variable (F : Format) (bs : List UInt8)

/-- The size of the record at an offset. -/
def size (a : ℕ) : ℕ := F.hdr + F.len bs a

/-- The offset behind the record, if the record lies inside the string. -/
def next (a : ℕ) : Option ℕ :=
  if a + F.size bs a ≤ bs.length then some (a + F.size bs a) else none

/-- The offsets of the records from an offset on. -/
def records (a : ℕ) : List ℕ := Walk.records (F.next bs) bs.length a

/-- The first record of an id from an offset on: its offset and its size. -/
def find (t a : ℕ) : Option (ℕ × ℕ) :=
  ((F.records bs a).find? fun x => F.id bs x = t).map fun x => (x, F.size bs x)

variable {F bs} {t a : ℕ}

lemma next_forward : Walk.Forward (F.next bs) bs.length := by
  have hpos := F.hdr_pos
  constructor <;> intro a b h <;> unfold next size at h <;> split at h <;> simp at h <;> omega

lemma find_of_not_whole (h : bs.length < a + F.size bs a) : F.find bs t a = none := by
  have hnext : F.next bs a = none := by
    rw [next, if_neg (by omega)]
  rw [find, records, Walk.records_of_none hnext]
  rfl

lemma next_of_whole (h : a + F.size bs a ≤ bs.length) :
    F.next bs a = some (a + F.size bs a) := by
  rw [next, if_pos h]

lemma find_of_eq (h : a + F.size bs a ≤ bs.length) (hid : F.id bs a = t) :
    F.find bs t a = some (a, F.size bs a) := by
  rw [find, records, next_forward.records_of_some (next_of_whole h)]
  simp [hid]

lemma find_of_ne (h : a + F.size bs a ≤ bs.length) (hid : F.id bs a ≠ t) :
    F.find bs t a = F.find bs t (a + F.size bs a) := by
  rw [find, records, next_forward.records_of_some (next_of_whole h)]
  simp [hid, find, records]

lemma find_of_length_lt (h : bs.length < a + F.hdr) : F.find bs t a = none :=
  find_of_not_whole (by unfold size; omega)

end Format

/-! ### 16-bit steps -/

variable (F : Format) (t : ℕ) (bs : List UInt8) (start : ℕ)

/-- The size of a record in 16 bits. -/
def step16 (a : ℕ) : ℕ := F.size bs a % 65536

/-- The offsets that 16-bit steps over records of other ids reach.  The flag says that one of
these records had a size of more than 16 bits. -/
inductive Reaches : Bool → ℕ → Prop
  | start : Reaches false start
  | step {wrapped : Bool} {a : ℕ} : Reaches wrapped a → a + F.hdr ≤ bs.length → F.id bs a ≠ t →
      Reaches (wrapped || decide (65536 ≤ F.size bs a)) (a + step16 F bs a)

/-- Sizes of more than 16 bits do not lead the search astray. -/
structure SearchOk : Prop where
  /-- No step is zero. -/
  moves : ∀ {w a}, Reaches F t bs start w a → a + F.hdr ≤ bs.length → F.id bs a ≠ t →
    step16 F bs a ≠ 0
  /-- A record of such a size runs out of the string. -/
  wraps : ∀ {w a}, Reaches F t bs start w a → a + F.hdr ≤ bs.length → F.id bs a ≠ t →
    65536 ≤ F.size bs a → bs.length < a + F.size bs a
  /-- Neither the record that is met nor one before it has such a size. -/
  meets : ∀ {w a}, Reaches F t bs start w a → a + F.hdr ≤ bs.length → F.id bs a = t →
    a + step16 F bs a ≤ bs.length → w = false ∧ F.size bs a < 65536

/-- What a search does that goes on in 16-bit steps, by its results from each offset. -/
structure SearchLoop (ret : ℕ → Outcome → Prop) : Prop where
  unique : ∀ {a r r'}, ret a r → ret a r' → r = r'
  step : ∀ {a r}, a + F.hdr ≤ bs.length → F.id bs a ≠ t →
    (ret a r ↔ ret (a + step16 F bs a) r)
  stuck : ∀ {a r}, a + F.hdr ≤ bs.length → F.id bs a ≠ t → step16 F bs a = 0 → ¬ ret a r
  found : ∀ {a}, a + F.hdr ≤ bs.length → F.id bs a = t → a + step16 F bs a ≤ bs.length →
    ret a (.found a (step16 F bs a))
  done : ∀ {a}, bs.length ≤ a → ret a .notFound

variable {F t bs start} {ret : ℕ → Outcome → Prop} {w : Bool} {a : ℕ}

lemma step16_eq (h : F.size bs a < 65536) : step16 F bs a = F.size bs a := Nat.mod_eq_of_lt h

/-- A string in which no size has more than 16 bits. -/
lemma searchOk_of_size_lt (h : ∀ a, a + F.hdr ≤ bs.length → F.size bs a < 65536) :
    SearchOk F t bs start := by
  have hunwrapped {w a} (hreach : Reaches F t bs start w a) : w = false := by
    induction hreach with
    | start => rfl
    | step _ hhdr _ ih => rw [ih, Bool.false_or, decide_eq_false (Nat.not_le.2 (h _ hhdr))]
  refine ⟨fun {_ a} _ hhdr _ hzero => ?_, fun {_ a} _ hhdr _ hsize => ?_,
    fun hreach hhdr _ _ => ⟨hunwrapped hreach, h _ hhdr⟩⟩
  · have hpos := F.hdr_pos
    have hsize : F.hdr ≤ F.size bs a := Nat.le_add_right _ _
    rw [step16_eq (h a hhdr)] at hzero
    omega
  · exact absurd (h a hhdr) (Nat.not_lt.2 hsize)

lemma step16_le : step16 F bs a ≤ F.size bs a := Nat.mod_le _ _

/-- The first record is the same one after a step that does not wrap. -/
lemma find_step (h : F.size bs a < 65536) (hid : F.id bs a ≠ t) :
    F.find bs t a = F.find bs t (a + step16 F bs a) := by
  rw [step16_eq h]
  by_cases hwhole : a + F.size bs a ≤ bs.length
  · exact Format.find_of_ne hwhole hid
  · rw [Format.find_of_not_whole (by omega), Format.find_of_length_lt (by omega)]

namespace SearchLoop

variable (hs : SearchLoop F t bs ret)
include hs

/-- After a size of more than 16 bits nothing is found. -/
lemma returns_notFound (hok : SearchOk F t bs start)
    (hends : ∀ {w a}, Reaches F t bs start w a →
      (bs.length < a + F.hdr ∨ F.id bs a = t ∧ bs.length < a + step16 F bs a) → ret a .notFound)
    (h : Reaches F t bs start true a) : ret a .notFound := by
  generalize hm : bs.length - a = m
  induction m using Nat.strongRecOn generalizing a with
  | ind m ih =>
      by_cases hhdr : a + F.hdr ≤ bs.length
      · by_cases hid : F.id bs a = t
        · refine hends h (.inr ⟨hid, ?_⟩)
          by_contra hfits
          exact Bool.false_ne_true (hok.meets h hhdr hid (by omega)).1.symm
        · rw [hs.step hhdr hid]
          have hmoves := hok.moves h hhdr hid
          have hpos := F.hdr_pos
          exact ih _ (by omega) (h.step hhdr hid) rfl
      · exact hends h (.inl (by omega))

/-- The search finds the first record of the id. -/
theorem returns_find (hok : SearchOk F t bs start)
    (hends : ∀ {w a}, Reaches F t bs start w a →
      (bs.length < a + F.hdr ∨ F.id bs a = t ∧ bs.length < a + step16 F bs a) → ret a .notFound)
    (h : Reaches F t bs start false a) : ret a (.ofOption (F.find bs t a)) := by
  generalize hm : bs.length - a = m
  induction m using Nat.strongRecOn generalizing a with
  | ind m ih =>
      have hpos := F.hdr_pos
      by_cases hhdr : a + F.hdr ≤ bs.length
      · by_cases hid : F.id bs a = t
        · by_cases hfits : a + step16 F bs a ≤ bs.length
          · have hsize := (hok.meets h hhdr hid hfits).2
            have hfound := hs.found hhdr hid hfits
            rw [step16_eq hsize] at hfits hfound
            rwa [Format.find_of_eq hfits hid]
          · have hle : step16 F bs a ≤ F.size bs a := step16_le
            rw [Format.find_of_not_whole (by omega)]
            exact hends h (.inr ⟨hid, by omega⟩)
        · have hnext := h.step hhdr hid
          rw [hs.step hhdr hid]
          by_cases hsize : F.size bs a < 65536
          · rw [find_step hsize hid]
            rw [decide_eq_false (by omega), Bool.or_false] at hnext
            have hmoves := hok.moves h hhdr hid
            exact ih _ (by omega) hnext rfl
          · rw [Format.find_of_not_whole (hok.wraps h hhdr hid (by omega))]
            rw [decide_eq_true (by omega), Bool.or_true] at hnext
            exact hs.returns_notFound hok hends hnext
      · rw [Format.find_of_length_lt (by omega)]
        exact hends h (.inl (by omega))

lemma iff_of_reaches (h : Reaches F t bs start w a) {r : Outcome} : ret start r ↔ ret a r := by
  induction h with
  | start => exact Iff.rfl
  | step _ hhdr hid ih => rw [ih, hs.step hhdr hid]

end SearchLoop

/-- In a string whose length has 16 bits a record of a larger size ends the search. -/
lemma find_of_reaches (hlen : bs.length < 65536) (h : Reaches F t bs start w a) :
    F.find bs t start = if w then none else F.find bs t a := by
  induction h with
  | start => rfl
  | @step w a _ hhdr hid ih =>
      rw [ih]
      cases w with
      | true => rfl
      | false =>
          by_cases hsize : F.size bs a < 65536
          · simpa [Nat.not_le.2 hsize] using find_step hsize hid
          · simpa [Nat.le_of_not_lt hsize] using Format.find_of_not_whole (t := t) (by omega)

/-- A search that finds the first record of the id is not led astray. -/
theorem SearchLoop.searchOk (hs : SearchLoop F t bs ret) (hlen : bs.length < 65536)
    (h : ret start (.ofOption (F.find bs t start))) : SearchOk F t bs start where
  moves {w a} hreach hhdr hid hzero := hs.stuck hhdr hid hzero ((hs.iff_of_reaches hreach).1 h)
  wraps _ _ _ hsize := by omega
  meets {w a} hreach hhdr hid hfits := by
    have hfound := hs.unique ((hs.iff_of_reaches hreach).1 h) (hs.found hhdr hid hfits)
    rw [find_of_reaches hlen hreach] at hfound
    cases w with
    | true => cases hfound
    | false =>
        refine ⟨rfl, ?_⟩
        by_contra hsize
        rw [if_neg (by decide), Format.find_of_not_whole (by omega)] at hfound
        cases hfound

end Lib.Tlv
