import Rtl8723du.Xmit.Coalesce

/-!
# The walkers over the fragments

`xmitframe_addmic`, the encryption functions and `rtw_dump_xframe` go through the MPDUs that
`rtw_xmitframe_coalesce` has laid out, each with a stride of its own.  The MIC and the encryption
forget the FCS that `frag_len` counts and the descriptor in front of the next fragment, so that
they only find what is there if there is a single MPDU.
-/

namespace Rtl8723du.Xmit

/-! ### The MIC -/

/-- What `xmitframe_addmic` writes: the MIC goes behind the body of the last MPDU, and the room for
the ICV moves on by its length. -/
def appendMic (mic : List UInt8) : List Mpdu → List Mpdu
  | [] => []
  | [f] => [{ f with body := f.body ++ mic }]
  | f :: g :: l => f :: appendMic mic (g :: l)

/-- The MPDUs after `xmitframe_addmic`, which only does something for TKIP. -/
def addMic (p : PktAttrib) (mic : Vector UInt8 8) (mpdus : List Mpdu) : List Mpdu :=
  if p.encrypt = .tkip then appendMic mic.toList mpdus else mpdus

/-! ### The bounds of an MPDU -/

/-- Where the parts of an MPDU are: its header, its body, its ICV, and the end of that. -/
structure Span where
  start : ℕ
  body : ℕ
  icv : ℕ
  stop : ℕ
deriving DecidableEq, Repr

/-- The bounds of an MPDU as it has been laid out. -/
def Mpdu.span (f : Mpdu) : Span :=
  let body := f.start + f.hdr.length + f.iv.length
  ⟨f.start, body, body + f.body.length, body + f.body.length + f.icv.length⟩

/-! ### The walkers -/

/-- The parts that the loop of `xmitframe_addmic` takes into the MIC, by their address and length;
`payload` is where it is before the next of `k` fragments. -/
def addmicSpans (fragLen : FragLen) (p : PktAttrib) (last : ℕ) : ℕ → ℕ → List (ℕ × ℕ)
  | 0, _ => []
  | 1, payload =>
      [(rnd4 payload + p.hdrlen + ivLen p.encrypt, last - p.hdrlen - ivLen p.encrypt - p.swIcvLen)]
  | k + 2, payload =>
      let payload := rnd4 payload + p.hdrlen + ivLen p.encrypt
      let length := fragLen.val - p.hdrlen - ivLen p.encrypt - p.swIcvLen
      (payload, length) :: addmicSpans fragLen p last (k + 1) (payload + length + icvLen p.encrypt)

/-- An MPDU at `pframe` as the encryption functions see it, with `length` bytes to encrypt. -/
def encryptSpan (p : PktAttrib) (pframe length : ℕ) : Span :=
  let payload := pframe + ivLen p.encrypt + p.hdrlen
  ⟨pframe, payload, payload + length, payload + length + icvLen p.encrypt⟩

/-- The MPDUs that `rtw_wep_encrypt`, `rtw_tkip_encrypt`, `rtw_aes_encrypt` and `rtw_gcmp_encrypt`
encrypt. -/
def encryptSpans (fragLen : FragLen) (p : PktAttrib) (last : ℕ) : ℕ → ℕ → List Span
  | 0, _ => []
  | 1, pframe => [encryptSpan p pframe (last - p.hdrlen - ivLen p.encrypt - icvLen p.encrypt)]
  | k + 2, pframe =>
      encryptSpan p pframe (fragLen.val - p.hdrlen - ivLen p.encrypt - icvLen p.encrypt) ::
        encryptSpans fragLen p last (k + 1) (rnd4 (pframe + fragLen.val))

/-- The ciphers for which `xmitframe_swencrypt` has a function. -/
def HasEncrypt : SecurityType → Prop
  | .wep40 | .wep104 | .tkip | .aes | .ccmp256 | .gcmp | .gcmp256 => True
  | _ => False

/-- The frames that `rtw_dump_xframe` sends, by their address and length.  Whether the descriptor
is pulled by `PACKET_OFFSET_SZ` or not, the frame is as far behind `mem_addr`. -/
def dumpSpans (fragLen : FragLen) (p : PktAttrib) (swEncrypt : Bool) (last : ℕ) :
    ℕ → ℕ → List (ℕ × ℕ)
  | 0, _ => []
  | 1, memAddr => [(memAddr + packetOffsetSz + txdescSize, last)]
  | k + 2, memAddr =>
      let sz := fragLen.val - 4 - (if swEncrypt then 0 else icvLen p.encrypt)
      (memAddr + packetOffsetSz + txdescSize, sz) ::
        dumpSpans fragLen p swEncrypt last (k + 1)
          (rnd4 (memAddr + packetOffsetSz + txdescSize + sz))

/-- All walkers find the MPDUs where they are, for a frame with a packet offset of one: the MIC is
computed over the bodies, and the MPDUs that are encrypted and sent are those with the MIC. -/
structure WalkersAgree (fragLen : FragLen) (p : PktAttrib) (swEncrypt : Bool) (bufAddr : ℕ)
    (mic : Vector UInt8 8) (mpdus : List Mpdu) : Prop where
  addmic : p.encrypt = .tkip →
    addmicSpans fragLen p (lastTxcmdsz mpdus) mpdus.length (bufAddr + hwHdrOffset 1) =
      mpdus.map fun f => (f.span.body, f.body.length)
  encrypt : HasEncrypt p.encrypt →
    encryptSpans fragLen p (lastTxcmdsz (addMic p mic mpdus)) mpdus.length
      (bufAddr + hwHdrOffset 1) = (addMic p mic mpdus).map Mpdu.span
  dump : dumpSpans fragLen p swEncrypt (lastTxcmdsz (addMic p mic mpdus)) mpdus.length
      bufAddr = (addMic p mic mpdus).map fun f => (f.start, f.bytes.length)

variable {fragLen : FragLen} {p : PktAttrib} {bufAddr : ℕ} {payload : List UInt8}
  {mic : Vector UInt8 8}

lemma rnd4_of_mod_eq_zero {x : ℕ} (h : x % 4 = 0) : rnd4 x = x := by
  rw [rnd4]
  omega

lemma appendMic_cons_cons (mic : List UInt8) (f g : Mpdu) (l : List Mpdu) :
    appendMic mic (f :: g :: l) = f :: appendMic mic (g :: l) := rfl

/-- The MIC leaves all but the last MPDU alone. -/
lemma addMic_cons_cons (p : PktAttrib) (mic : Vector UInt8 8) (f g : Mpdu)
    (l : List Mpdu) :
    addMic p mic (f :: g :: l) = f :: addMic p mic (g :: l) := by
  rw [addMic, addMic]
  split <;> rfl

/-- The length of the MIC. -/
def micLen (p : PktAttrib) : ℕ := if p.encrypt = .tkip then 8 else 0

/-- What is left of a single MPDU after the MIC was added. -/
lemma addMic_singleton (p : PktAttrib) (mic : Vector UInt8 8) (f : Mpdu) :
    ∃ body, body.length = f.body.length + micLen p ∧
      addMic p mic [f] = [{ f with body := body }] := by
  rw [addMic, micLen]
  split
  · exact ⟨f.body ++ mic.toList, by simp, rfl⟩
  · exact ⟨f.body, rfl, rfl⟩

/-- A single MPDU is found by all walkers. -/
lemma walkersAgree_of_fits (hsw : p.bswenc = true) (halign : bufAddr % 4 = 0)
    (h : Fits fragLen p payload) (swEncrypt : Bool) (mic : Vector UInt8 8) :
    WalkersAgree fragLen p swEncrypt bufAddr mic
      (rtwXmitframeCoalesce fragLen p bufAddr 1 payload) := by
  have hswIcv : p.swIcvLen = icvLen p.encrypt := if_pos hsw
  have hhdr : (clearMFrag (setMFrag (rtwMakeWlanhdr p))).length = p.hdrlen := by
    rw [length_clearMFrag, length_setMFrag, length_rtwMakeWlanhdr]
  rw [coalesce_of_fits h]
  obtain ⟨body, hbody, hmic⟩ :=
    addMic_singleton p mic (wholeMpdu p (bufAddr + hwHdrOffset 1) payload)
  have hoff : hwHdrOffset 1 = 48 := rfl
  constructor
  · intro _
    have hrnd : rnd4 (bufAddr + hwHdrOffset 1) = bufAddr + hwHdrOffset 1 :=
      rnd4_of_mod_eq_zero (by omega)
    simp only [List.length_singleton, addmicSpans, lastTxcmdsz, List.getLast?_singleton,
      Option.map_some, Option.getD_some, List.map_singleton, hrnd, Mpdu.span, Mpdu.bytes, wholeMpdu,
      hhdr, p.length_iv, List.length_append, List.length_replicate, length_rtwPutSnap]
    congr 2
    omega
  · intro _
    rw [hmic]
    simp only [List.length_singleton, encryptSpans, encryptSpan, lastTxcmdsz,
      List.getLast?_singleton, Option.map_some, Option.getD_some, List.map_singleton, Mpdu.span,
      Mpdu.bytes, wholeMpdu, hhdr, p.length_iv, List.length_append, List.length_replicate, hswIcv]
    congr 2 <;> omega
  · rw [hmic]
    simp only [List.length_singleton, dumpSpans, lastTxcmdsz, List.getLast?_singleton,
      Option.map_some, Option.getD_some, List.map_singleton, wholeMpdu, hoff, Nat.add_assoc]
    rfl

/-- The body that is encrypted of the first of several fragments is too long by the FCS. -/
lemma not_walkersAgree_of_not_fits (hsw : p.bswenc = true)
    (hencrypt : HasEncrypt p.encrypt) (h : ¬ Fits fragLen p payload) (swEncrypt : Bool) :
    ¬ WalkersAgree fragLen p swEncrypt bufAddr mic
      (rtwXmitframeCoalesce fragLen p bufAddr 1 payload) := by
  intro hagree
  have hswIcv : p.swIcvLen = icvLen p.encrypt := if_pos hsw
  obtain ⟨f, g, l, hl, hstart, hhdr, hiv, hbody, -, -⟩ :=
    coalesce_of_not_fits bufAddr 1 h
  have henc := hagree.encrypt hencrypt
  rw [hl, addMic_cons_cons, List.length_cons, List.length_cons, encryptSpans,
    List.map_cons] at henc
  have hicv := congrArg Span.icv (List.cons.inj henc).1
  have hhdrlen : f.hdr.length = p.hdrlen := by
    rw [hhdr, length_setMFrag, length_rtwMakeWlanhdr]
  have hmin := fragLen.min_le
  have hle := hdrlen_le p
  have hivle := ivLen_le p.encrypt
  have hicvle := swIcvLen_le p
  simp only [encryptSpan, Mpdu.span, hstart, hhdrlen, hiv, p.length_iv, hbody, mpduLen,
    if_true] at hicv
  omega

/-- The walkers agree with the layout exactly if the MSDU is not fragmented. -/
theorem walkersAgree_iff_fits (fragLen : FragLen) (p : PktAttrib) (swEncrypt : Bool) (bufAddr : ℕ)
    (mic : Vector UInt8 8) (payload : List UInt8) (hsw : p.bswenc = true)
    (hencrypt : HasEncrypt p.encrypt) (halign : bufAddr % 4 = 0) :
    WalkersAgree fragLen p swEncrypt bufAddr mic
      (rtwXmitframeCoalesce fragLen p bufAddr 1 payload) ↔ Fits fragLen p payload := by
  constructor
  · intro hagree
    by_contra h
    exact not_walkersAgree_of_not_fits hsw hencrypt h swEncrypt hagree
  · intro h
    exact walkersAgree_of_fits hsw halign h swEncrypt mic

/-- The attributes of a TKIP frame with `n` bytes of payload. -/
def plainAttrib (n : ℕ) : PktAttrib :=
  updateAttrib plainAdapter plainSta (plainPkt n) .tkip 1 false (plainMsdu n).seqnum

/-- A frame of 28 bytes with its MIC. -/
theorem walkersAgree_iff_fits_short :
    WalkersAgree plainAdapter.fragLen (plainAttrib 28) true 0x1000 (.replicate 8 0x11)
      (rtwXmitframeCoalesce plainAdapter.fragLen (plainAttrib 28) 0x1000 1
        (plainPkt 28).payload) :=
  (walkersAgree_iff_fits plainAdapter.fragLen (plainAttrib 28) true 0x1000 (.replicate 8 0x11)
    (plainPkt 28).payload rfl trivial rfl).2 (by decide)

/-- The first fragment of a frame of 300 bytes is taken for four bytes longer by the MIC and the
encryption. -/
theorem walkers_of_fragments_disagree :
    ¬ WalkersAgree plainAdapter.fragLen (plainAttrib 300) true 0x1000 (.replicate 8 0x11)
      (rtwXmitframeCoalesce plainAdapter.fragLen (plainAttrib 300) 0x1000 1
        (plainPkt 300).payload) := by
  have hfits : ¬ Fits plainAdapter.fragLen (plainAttrib 300) (plainPkt 300).payload := by
    decide +kernel
  exact not_walkersAgree_of_not_fits (p := plainAttrib 300) rfl trivial hfits true

end Rtl8723du.Xmit
