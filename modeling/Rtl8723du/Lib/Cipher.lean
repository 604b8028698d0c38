import Mathlib.Data.List.Basic

/-!
# Stream ciphers and integrity values

`stream` adds a keystream to data, byte by byte; doing it twice gives the data back.  Two ways
to protect data by an integrity value: `sealIcv` appends it and encrypts both, `sealTag` encrypts
the data and leaves the tag beside it.  What `openIcv` and `openTag` accept is what was sealed.
-/

namespace Lib.Cipher

variable {σ : Type*}

/-- Data with the keystream of a generator added to it. -/
def stream (next : σ → UInt8 × σ) : σ → List UInt8 → List UInt8
  | _, [] => []
  | s, b :: bs => (b ^^^ (next s).1) :: stream next (next s).2 bs

/-- The generator after some bytes. -/
def skip (next : σ → UInt8 × σ) (s : σ) : ℕ → σ
  | 0 => s
  | n + 1 => skip next (next s).2 n

variable (next : σ → UInt8 × σ) (s : σ)

@[simp] lemma stream_nil : stream next s [] = [] := rfl

@[simp] lemma length_stream (bs : List UInt8) : (stream next s bs).length = bs.length := by
  induction bs generalizing s with
  | nil => rfl
  | cons b bs ih => rw [stream, List.length_cons, List.length_cons, ih]

/-- Decryption is encryption. -/
@[simp] lemma stream_stream (bs : List UInt8) : stream next s (stream next s bs) = bs := by
  induction bs generalizing s with
  | nil => rfl
  | cons b bs ih =>
      rw [stream, stream, ih, UInt8.xor_assoc, UInt8.xor_self, UInt8.xor_zero]

lemma stream_append (as bs : List UInt8) :
    stream next s (as ++ bs) = stream next s as ++ stream next (skip next s as.length) bs := by
  induction as generalizing s with
  | nil => rfl
  | cons a as ih => rw [List.cons_append, stream, stream, ih, List.cons_append]; rfl

lemma stream_eq_iff {as bs : List UInt8} : stream next s as = bs ↔ as = stream next s bs := by
  constructor
  · rintro rfl
    rw [stream_stream]
  · rintro rfl
    rw [stream_stream]

/-! ### The integrity value is encrypted with the data -/

variable (icv : List UInt8 → List UInt8)

/-- The data and their integrity value, encrypted. -/
def sealIcv (data : List UInt8) : List UInt8 := stream next s (data ++ icv data)

/-- The decrypted bytes are data with their integrity value. -/
def Carries (bs : List UInt8) : Prop := ∃ data, bs = data ++ icv data

/-- The integrity value is right behind the decrypted data exactly if the bytes were sealed. -/
lemma carries_stream_iff (bs : List UInt8) :
    Carries icv (stream next s bs) ↔ ∃ data, bs = sealIcv next s icv data := by
  constructor
  · rintro ⟨data, hdata⟩
    exact ⟨data, (stream_eq_iff next s).1 hdata⟩
  · rintro ⟨data, rfl⟩
    exact ⟨data, stream_stream next s _⟩

variable {icv} in
/-- Whether the last bytes are the integrity value of the others. -/
lemma carries_iff_drop {k : ℕ} (hk : ∀ data, (icv data).length = k) {bs : List UInt8}
    (hlen : k ≤ bs.length) :
    Carries icv bs ↔ icv (bs.take (bs.length - k)) = bs.drop (bs.length - k) := by
  constructor
  · rintro ⟨data, rfl⟩
    have hdata : (data ++ icv data).length - k = data.length := by
      rw [List.length_append, hk, Nat.add_sub_cancel]
    rw [hdata, List.take_left, List.drop_left]
  · intro h
    exact ⟨_, by rw [h, List.take_append_drop]⟩

variable {icv} in
lemma Carries.le_length {k : ℕ} (hk : ∀ data, (icv data).length = k) {bs : List UInt8}
    (h : Carries icv bs) : k ≤ bs.length := by
  obtain ⟨data, rfl⟩ := h
  rw [List.length_append, hk]
  exact Nat.le_add_left _ _

/-! ### The tag stands beside the encrypted data -/

variable (tag : List UInt8 → List UInt8)

/-- The encrypted data and the tag of the data. -/
def sealTag (data : List UInt8) : List UInt8 × List UInt8 := (stream next s data, tag data)

/-- The decrypted data, if the tag is theirs. -/
def openTag (crypt auth : List UInt8) : Option (List UInt8) :=
  if tag (stream next s crypt) = auth then some (stream next s crypt) else none

/-- What is opened is what was sealed. -/
lemma openTag_eq_some_iff {crypt auth data : List UInt8} :
    openTag next s tag crypt auth = some data ↔ sealTag next s tag data = (crypt, auth) := by
  rw [openTag, sealTag, Prod.mk.injEq, stream_eq_iff]
  constructor
  · intro h
    split at h
    · next htag =>
        obtain rfl := Option.some.inj h
        exact ⟨rfl, htag⟩
    · simp at h
  · rintro ⟨rfl, rfl⟩
    rw [if_pos rfl]

end Lib.Cipher
