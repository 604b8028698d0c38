import Mathlib.Data.List.Basic
import Mathlib.Data.UInt

/-!
# Strings of information elements

An information element is an id, a length byte and that many bytes of data; a string of them is
read from its start, element by element.  `search` steps along a byte string in this way until a
test holds or a limit is met; on a string of whole elements it looks at their beginnings only
(`search_eq_some`, `search_eq_none`).
-/

namespace Lib.Elements

/-- An information element. -/
structure Element where
  id : UInt8
  data : List UInt8
  /-- The length fits into the length byte. -/
  short : data.length < 256
deriving DecidableEq

namespace Element

/-- The bytes of an element. -/
def bytes (e : Element) : List UInt8 := e.id :: UInt8.ofNat e.data.length :: e.data

/-- The number of its bytes. -/
def size (e : Element) : ℕ := e.data.length + 2

@[simp] lemma length_bytes (e : Element) : e.bytes.length = e.size := by
  simp [bytes, size]

lemma toNat_length (e : Element) : (UInt8.ofNat e.data.length).toNat = e.data.length := by
  rw [UInt8.toNat_ofNat', Nat.mod_eq_of_lt e.short]

end Element

/-- The bytes of a string of elements. -/
def encode (es : List Element) : List UInt8 := es.flatMap Element.bytes

@[simp] lemma encode_nil : encode [] = [] := rfl

@[simp] lemma encode_cons (e : Element) (es : List Element) :
    encode (e :: es) = e.bytes ++ encode es := rfl

@[simp] lemma encode_append (es fs : List Element) : encode (es ++ fs) = encode es ++ encode fs :=
  List.flatMap_append

lemma length_le_encode (es : List Element) : 2 * es.length ≤ (encode es).length := by
  induction es with
  | nil => simp
  | cons e es ih =>
      rw [encode_cons, List.length_append, Element.length_bytes, Element.size, List.length_cons]
      omega

lemma encode_eq_nil {es : List Element} : encode es = [] ↔ es = [] := by
  refine ⟨fun h => ?_, fun h => by rw [h]; rfl⟩
  have := length_le_encode es
  rw [h] at this
  exact List.length_eq_zero_iff.1 (by simpa using this)

/-- A string is read in one way only, whatever follows. -/
lemma bytes_append_inj {e f : Element} {bs cs : List UInt8}
    (h : e.bytes ++ bs = f.bytes ++ cs) : e = f ∧ bs = cs := by
  obtain ⟨i, d, hd⟩ := e
  obtain ⟨j, c, hc⟩ := f
  simp only [Element.bytes, List.cons_append, List.cons.injEq] at h
  obtain ⟨rfl, hlen, hrest⟩ := h
  have hlength : d.length = c.length := by
    have := congrArg UInt8.toNat hlen
    rwa [UInt8.toNat_ofNat', UInt8.toNat_ofNat', Nat.mod_eq_of_lt hd, Nat.mod_eq_of_lt hc] at this
  obtain ⟨rfl, rfl⟩ := List.append_inj hrest hlength
  exact ⟨rfl, rfl⟩

theorem encode_injective : Function.Injective encode := by
  intro es
  induction es with
  | nil => exact fun fs h => (encode_eq_nil.1 h.symm).symm
  | cons e es ih =>
      intro fs h
      cases fs with
      | nil => exact encode_eq_nil.1 h
      | cons f fs =>
          obtain ⟨rfl, hrest⟩ := bytes_append_inj h
          rw [ih hrest]

/-! ### Strings that end within an element -/

/-- The beginning of an element, but not the whole of it. -/
def Truncated (bs : List UInt8) : Prop :=
  bs.length = 1 ∨ ∃ i l d, bs = i :: l :: d ∧ d.length < l.toNat

/-- A string is a string of elements, with nothing or a part of an element behind it. -/
lemma exists_split (bs : List UInt8) :
    ∃ es tail, bs = encode es ++ tail ∧ (tail = [] ∨ Truncated tail) := by
  generalize hn : bs.length = n
  induction n using Nat.strongRecOn generalizing bs with
  | ind n ih =>
      rcases bs with _ | ⟨i, _ | ⟨l, d⟩⟩
      · exact ⟨[], [], rfl, .inl rfl⟩
      · exact ⟨[], [i], rfl, .inr (.inl rfl)⟩
      · by_cases hd : d.length < l.toNat
        · exact ⟨[], i :: l :: d, rfl, .inr (.inr ⟨i, l, d, rfl, hd⟩)⟩
        · have hlen : (d.take l.toNat).length = l.toNat := by
            rw [List.length_take, Nat.min_eq_left (Nat.not_lt.1 hd)]
          have hlt : (d.drop l.toNat).length < n := by
            rw [← hn, List.length_drop, List.length_cons, List.length_cons]
            omega
          obtain ⟨es, tail, hrest, htail⟩ := ih _ hlt _ rfl
          refine ⟨⟨i, d.take l.toNat, lt_of_eq_of_lt hlen l.toNat_lt⟩ :: es, tail, ?_, htail⟩
          rw [encode_cons, List.append_assoc, ← hrest]
          show i :: l :: d = i :: UInt8.ofNat (d.take l.toNat).length :: (d.take _ ++ d.drop _)
          rw [hlen, UInt8.ofNat_toNat, List.take_append_drop]

/-- With a part of an element behind it, it is no string of elements. -/
lemma Truncated.not_encode {tail : List UInt8} (h : Truncated tail) (es fs : List Element) :
    encode es ++ tail ≠ encode fs := by
  induction es generalizing fs with
  | nil =>
      intro heq
      rw [encode_nil, List.nil_append] at heq
      rcases fs with _ | ⟨f, fs⟩
      · rw [heq] at h
        rcases h with h | ⟨i, l, d, h, -⟩ <;> cases h
      · rw [encode_cons, Element.bytes] at heq
        rcases h with h | ⟨i, l, d, h, hlt⟩
        · rw [heq] at h
          cases h
        · rw [h] at heq
          simp only [List.cons_append, List.cons.injEq] at heq
          obtain ⟨-, rfl, rfl⟩ := heq
          rw [Element.toNat_length, List.length_append] at hlt
          omega
  | cons e es ih =>
      intro heq
      rw [encode_cons, List.append_assoc] at heq
      rcases fs with _ | ⟨f, fs⟩
      · cases heq
      · exact ih fs (bytes_append_inj heq).2

/-! ### Reading elements -/

/-- The length byte of the element at an offset. -/
def lenAt (bs : List UInt8) (a : ℕ) : ℕ := (bs.getD (a + 1) 0).toNat

/-- At the offset the string goes on with these elements. -/
def At (bs : List UInt8) (a : ℕ) (es : List Element) : Prop := encode es <+: bs.drop a

variable {bs : List UInt8} {a : ℕ} {e : Element} {es pre post : List Element}

lemma getD_eq_of_drop {b : UInt8} {rest : List UInt8} (h : bs.drop a = b :: rest) :
    bs.getD a 0 = b := by
  rw [List.getD_eq_getElem?_getD, ← List.head?_drop, h]
  rfl

lemma drop_add_of_drop {cs rest : List UInt8} (h : bs.drop a = cs ++ rest) :
    bs.drop (a + cs.length) = rest := by
  rw [← List.drop_drop, h, List.drop_left]

namespace At

lemma left (h : At bs a (es ++ post)) : At bs a es := by
  refine List.IsPrefix.trans ?_ h
  rw [encode_append]
  exact List.prefix_append ..

lemma right {p : List Element} (h : At bs a (p ++ es)) : At bs (a + (encode p).length) es := by
  obtain ⟨rest, hrest⟩ := h
  rw [encode_append, List.append_assoc] at hrest
  exact ⟨rest, (drop_add_of_drop hrest.symm).symm⟩

lemma tail (h : At bs a (e :: es)) : At bs (a + e.size) es := by
  have := right (p := [e]) h
  simpa using this

lemma drop_eq (h : At bs a (e :: es)) : ∃ rest, bs.drop a = e.bytes ++ rest := by
  obtain ⟨rest, hrest⟩ := h
  exact ⟨encode es ++ rest, by rw [← hrest, encode_cons, List.append_assoc]⟩

lemma id_eq {l : List Element} (h : At bs a (e :: l)) : bs.getD a 0 = e.id := by
  obtain ⟨rest, hrest⟩ := h.drop_eq
  exact getD_eq_of_drop hrest

lemma lenAt_eq (h : At bs a (e :: es)) : lenAt bs a = e.data.length := by
  obtain ⟨rest, hrest⟩ := h.drop_eq
  have hlen : bs.drop (a + 1) = UInt8.ofNat e.data.length :: (e.data ++ rest) := by
    rw [← List.drop_drop, hrest]
    rfl
  rw [lenAt, getD_eq_of_drop hlen, Element.toNat_length]

/-- The data of the element. -/
lemma data_eq {l : List Element} (h : At bs a (e :: l)) :
    (bs.drop (a + 2)).take e.data.length = e.data := by
  obtain ⟨rest, hrest⟩ := h.drop_eq
  have hdata : bs.drop (a + 2) = e.data ++ rest := by
    rw [← List.drop_drop, hrest]
    rfl
  rw [hdata, List.take_left]

end At

/-! ### Searches -/

/-- Step from element to element until a test holds, with at most `k` steps. -/
def search (bs : List UInt8) (hit : ℕ → Bool) (limit : ℕ) : ℕ → ℕ → Option ℕ
  | 0, _ => none
  | k + 1, a =>
      if limit ≤ a then none
      else if hit a then some a
      else search bs hit limit k (a + (lenAt bs a + 2))

variable {hit : ℕ → Bool} {limit k : ℕ}

/-- The first element at which the test holds is found. -/
lemma search_eq_some (h : At bs a (pre ++ e :: post)) (hk : pre.length < k)
    (hpre : ∀ p x q, pre = p ++ x :: q → hit (a + (encode p).length) = false)
    (he : hit (a + (encode pre).length) = true) (hlimit : a + (encode pre).length < limit) :
    search bs hit limit k a = some (a + (encode pre).length) := by
  induction pre generalizing a k with
  | nil =>
      obtain ⟨k, rfl⟩ : ∃ m, k = m + 1 := ⟨k - 1, by simp at hk; omega⟩
      rw [search, if_neg (by simpa using hlimit), if_pos (by simpa using he)]
      simp
  | cons x pre ih =>
      obtain ⟨k, rfl⟩ : ∃ m, k = m + 1 := ⟨k - 1, by simp at hk; omega⟩
      have hsize : (encode (x :: pre)).length = x.size + (encode pre).length := by simp
      have hstep : a + (lenAt bs a + 2) = a + x.size := by rw [At.lenAt_eq h]; rfl
      have hfirst : hit a = false := by simpa using hpre [] x pre rfl
      rw [hsize] at hlimit he ⊢
      rw [← Nat.add_assoc] at hlimit he ⊢
      rw [search, if_neg (by omega), if_neg (by simp [hfirst]), hstep]
      refine ih h.tail (by simpa using hk) (fun p y q hsplit => ?_) he hlimit
      have := hpre (x :: p) y q (by rw [hsplit]; rfl)
      rwa [encode_cons, List.length_append, Element.length_bytes, ← Nat.add_assoc] at this

/-- Where the test holds for no element before the limit, nothing is found. -/
lemma search_eq_none (h : At bs a es) (hk : es.length < k)
    (hes : ∀ p x q, es = p ++ x :: q → a + (encode p).length < limit →
      hit (a + (encode p).length) = false)
    (hlimit : limit ≤ a + (encode es).length) : search bs hit limit k a = none := by
  induction es generalizing a k with
  | nil =>
      obtain ⟨k, rfl⟩ : ∃ m, k = m + 1 := ⟨k - 1, by simp at hk; omega⟩
      rw [search, if_pos (by simpa using hlimit)]
  | cons x es ih =>
      obtain ⟨k, rfl⟩ : ∃ m, k = m + 1 := ⟨k - 1, by simp at hk; omega⟩
      have hstep : a + (lenAt bs a + 2) = a + x.size := by rw [At.lenAt_eq h]; rfl
      rw [search]
      split
      · rfl
      · have hfirst : hit a = false := hes [] x es rfl (by simp; omega)
        rw [if_neg (by simp [hfirst]), hstep]
        refine ih h.tail (by simpa using hk) (fun p y q hsplit hlt => ?_) ?_
        · have := hes (x :: p) y q (by rw [hsplit]; rfl)
          rw [encode_cons, List.length_append, Element.length_bytes, ← Nat.add_assoc] at this
          exact this hlt
        · rw [encode_cons, List.length_append, Element.length_bytes] at hlimit
          omega

/-- What a search finds passes its test and lies below the limit. -/
lemma hit_of_search {b : ℕ} (h : search bs hit limit k a = some b) : hit b = true ∧ b < limit := by
  induction k generalizing a with
  | zero => cases h
  | succ k ih =>
      rw [search] at h
      split at h
      · cases h
      · next hlimit =>
          split at h
          · next hhit =>
              cases h
              exact ⟨hhit, Nat.not_le.1 hlimit⟩
          · exact ih h

/-- Either no element has a property, or there is a first one. -/
lemma exists_first (p : Element → Bool) (es : List Element) :
    (∀ x ∈ es, p x = false) ∨
      ∃ pre e post, es = pre ++ e :: post ∧ (∀ x ∈ pre, p x = false) ∧ p e = true := by
  induction es with
  | nil => exact .inl (by simp)
  | cons e es ih =>
      cases he : p e with
      | true => exact .inr ⟨[], e, es, rfl, by simp, he⟩
      | false =>
          rcases ih with hnone | ⟨pre, x, post, rfl, hpre, hx⟩
          · left
            intro x hx
            rcases List.mem_cons.1 hx with rfl | hx
            · exact he
            · exact hnone x hx
          · right
            refine ⟨e :: pre, x, post, rfl, fun y hy => ?_, hx⟩
            rcases List.mem_cons.1 hy with rfl | hy
            · exact he
            · exact hpre y hy

/-- There is a first element with a property of it and of what follows, or none. -/
lemma exists_first_split (P : Element → List Element → Prop) (es : List Element) :
    (∀ p x q, es = p ++ x :: q → ¬ P x q) ∨
      ∃ pre e post, es = pre ++ e :: post ∧ P e post ∧
        ∀ p x q, pre = p ++ x :: q → ¬ P x (q ++ e :: post) := by
  induction es with
  | nil => exact .inl fun p x q hsplit => by simp at hsplit
  | cons e es ih =>
      by_cases he : P e es
      · exact .inr ⟨[], e, es, rfl, he, fun p x q hsplit => by simp at hsplit⟩
      · rcases ih with hnone | ⟨pre, v, post, rfl, hv, hpre⟩
        · left
          intro p x q hsplit
          rcases List.cons_eq_append_iff.1 hsplit with ⟨rfl, hx⟩ | ⟨p', rfl, hes⟩
          · obtain ⟨rfl, rfl⟩ := List.cons.inj hx
            exact he
          · exact hnone p' x q hes
        · refine .inr ⟨e :: pre, v, post, rfl, hv, fun p x q hsplit => ?_⟩
          rcases List.cons_eq_append_iff.1 hsplit with ⟨rfl, hx⟩ | ⟨p', rfl, hes⟩
          · obtain ⟨rfl, rfl⟩ := List.cons.inj hx
            exact he
          · exact hpre p' x q hes

/-- There is a last element with a property, if there is one. -/
lemma exists_last {p : Element → Prop} (h : ∃ e ∈ es, p e) :
    ∃ pre e post, es = pre ++ e :: post ∧ p e ∧ ∀ x ∈ post, ¬ p x := by
  induction es with
  | nil =>
      obtain ⟨e, he, -⟩ := h
      cases he
  | cons x es ih =>
      by_cases hes : ∃ e ∈ es, p e
      · obtain ⟨pre, e, post, rfl, he, hpost⟩ := ih hes
        exact ⟨x :: pre, e, post, rfl, he, hpost⟩
      · obtain ⟨e, he, hp⟩ := h
        rcases List.mem_cons.1 he with rfl | he
        · exact ⟨[], e, es, rfl, hp, fun y hy hpy => hes ⟨y, hy, hpy⟩⟩
        · exact absurd ⟨e, he, hp⟩ hes

/-- There is only one first element with a property of it and of what follows. -/
lemma first_unique {P : Element → List Element → Prop} {pre' post' : List Element} {e' : Element}
    (h : pre ++ e :: post = pre' ++ e' :: post') (he : P e post) (he' : P e' post')
    (hpre : ∀ p x q, pre = p ++ x :: q → ¬ P x (q ++ e :: post))
    (hpre' : ∀ p x q, pre' = p ++ x :: q → ¬ P x (q ++ e' :: post')) :
    pre = pre' ∧ e = e' ∧ post = post' := by
  rcases List.append_eq_append_iff.1 h with ⟨as, hsplit, hrest⟩ | ⟨as, hsplit, hrest⟩
  · cases as with
    | nil =>
        obtain ⟨rfl, rfl⟩ := List.cons.inj hrest
        exact ⟨by simpa using hsplit.symm, rfl, rfl⟩
    | cons a as =>
        obtain ⟨rfl, rfl⟩ := List.cons.inj hrest
        exact absurd he (hpre' pre e as hsplit)
  · cases as with
    | nil =>
        obtain ⟨rfl, rfl⟩ := List.cons.inj hrest
        exact ⟨by simpa using hsplit, rfl, rfl⟩
    | cons a as =>
        obtain ⟨rfl, rfl⟩ := List.cons.inj hrest
        exact absurd he' (hpre pre' e' as hsplit)

/-- The same for a property of the element alone. -/
lemma first_unique_of_mem {p : Element → Prop} {pre' post' : List Element} {e' : Element}
    (h : pre ++ e :: post = pre' ++ e' :: post') (he : p e) (he' : p e')
    (hpre : ∀ x ∈ pre, ¬ p x) (hpre' : ∀ x ∈ pre', ¬ p x) : pre = pre' ∧ e = e' ∧ post = post' :=
  first_unique (P := fun x _ => p x) h he he' (fun _ x _ hsplit => hpre x (by simp [hsplit]))
    (fun _ x _ hsplit => hpre' x (by simp [hsplit]))

/-- There is only one split at the first element without a property. -/
lemma split_unique {p : Element → Prop} {pre' post' : List Element}
    (h : pre ++ post = pre' ++ post') (hpre : ∀ x ∈ pre, p x) (hpre' : ∀ x ∈ pre', p x)
    (hpost : ∀ x ∈ post.head?, ¬ p x) (hpost' : ∀ x ∈ post'.head?, ¬ p x) :
    pre = pre' ∧ post = post' := by
  rcases List.append_eq_append_iff.1 h with ⟨as, rfl, rfl⟩ | ⟨as, rfl, rfl⟩
  · cases as with
    | nil => exact ⟨by simp, rfl⟩
    | cons a as => exact absurd (hpre' a (by simp)) (hpost a (by simp))
  · cases as with
    | nil => exact ⟨by simp, rfl⟩
    | cons a as => exact absurd (hpre a (by simp)) (hpost' a (by simp))

/-! ### Buffers -/

/-- What is before the given length in the buffer is some bytes and the elements. -/
structure Holds (bs : List UInt8) (len : ℕ) (fixed : List UInt8) (es : List Element) : Prop where
  le : len ≤ bs.length
  take_eq : bs.take len = fixed ++ encode es

lemma holds_def {len : ℕ} {fixed : List UInt8} : Holds bs len fixed es ↔
    len ≤ bs.length ∧ bs.take len = fixed ++ encode es :=
  ⟨fun h => ⟨h.le, h.take_eq⟩, fun h => ⟨h.1, h.2⟩⟩

namespace Holds

variable {len : ℕ} {fixed : List UInt8} {es' : List Element}

lemma len_eq (h : Holds bs len fixed es) : len = fixed.length + (encode es).length := by
  have hlen := congrArg List.length h.take_eq
  have hle := h.le
  rw [List.length_take, Nat.min_eq_left hle, List.length_append] at hlen
  exact hlen

lemma bytes_eq (h : Holds bs len fixed es) : bs = fixed ++ (encode es ++ bs.drop len) := by
  rw [← List.append_assoc, ← h.take_eq, List.take_append_drop]

lemma take_fixed (h : Holds bs len fixed es) : bs.take fixed.length = fixed := by
  conv_lhs => rw [h.bytes_eq]
  exact List.take_left

lemma drop_fixed (h : Holds bs len fixed es) : bs.drop fixed.length = encode es ++ bs.drop len := by
  conv_lhs => rw [h.bytes_eq]
  exact List.drop_left

lemma at_elements (h : Holds bs len fixed es) : At bs fixed.length es :=
  ⟨bs.drop len, h.drop_fixed.symm⟩

/-- The elements are determined. -/
lemma unique (h : Holds bs len fixed es) (h' : Holds bs len fixed es') : es = es' :=
  encode_injective (List.append_cancel_left (h.take_eq.symm.trans h'.take_eq))

/-- The first elements can be counted to what is before them. -/
lemma append_iff : Holds bs len fixed (pre ++ post) ↔ Holds bs len (fixed ++ encode pre) post := by
  rw [holds_def, holds_def, encode_append, List.append_assoc]

end Holds

end Lib.Elements
