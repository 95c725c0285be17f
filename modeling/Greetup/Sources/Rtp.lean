import Greetup.Data.BigEndian

/-!
The packets that arrive from the tap of a room: the parser of their headers, and
the packets that it is meant for.
-/

namespace Greetup.Sources

open Data

/-! ### The parser -/

structure RTPPacket where
  ssrc : ℕ
  sequenceNumber : ℕ
  timestamp : ℕ
  payloadType : ℕ
  payload : List UInt8
  deriving DecidableEq

/-- Where the payload begins, behind the block of the header extension. -/
def skipExtension (buf : List UInt8) (hasExtension offset : ℕ) : Read (Option ℕ) :=
  if hasExtension ≠ 0 then
    if buf.length < offset + 4 then return none
    else do
      let extWordCount ← readUIntBE 2 buf (offset + 2)
      return some (offset + 4 + extWordCount * 4)
  else return some offset

def parseVersion2 (buf : List UInt8) (first : ℕ) : Read (Option RTPPacket) := do
  let hasExtension := (first >>> 4) &&& 0x1
  let csrcCount := first &&& 0x0f
  let second ← readByte buf 1
  let payloadType := second &&& 0x7f
  let sequenceNumber ← readUIntBE 2 buf 2
  let timestamp ← readUIntBE 4 buf 4
  let ssrc ← readUIntBE 4 buf 8
  match ← skipExtension buf hasExtension (12 + csrcCount * 4) with
  | none => return none
  | some offset =>
      if buf.length ≤ offset then return none
      else return some { ssrc, sequenceNumber, timestamp, payloadType, payload := buf.drop offset }

def parseRTP (buf : List UInt8) : Read (Option RTPPacket) :=
  if buf.length < 12 then return none
  else do
    let first ← readByte buf 0
    if (first >>> 6) &&& 0x3 ≠ 2 then return none else parseVersion2 buf first

/-! ### The adapter -/

structure AudioChunk where
  participantId : String
  data : List UInt8
  deriving DecidableEq

/-- The handler of a datagram: the chunk that goes to the handlers and into the
buffer pool. -/
def onMessage (ssrcMap : ℕ → Option String) (msg : List UInt8) : Read (Option AudioChunk) := do
  match ← parseRTP msg with
  | none => return none
  | some rtp =>
      match ssrcMap rtp.ssrc with
      | none => return none
      | some participantId =>
          if participantId = "" then return none else return some ⟨participantId, rtp.payload⟩

/-! ### Packets -/

structure HeaderExtension where
  profile : UInt16
  words : List UInt32
  words_lt : words.length < 2 ^ 16

/-- What stands before the byte that counts the padding. -/
structure Padding where
  filler : List UInt8
  filler_lt : filler.length < 255

/-- A packet of version 2. -/
structure Packet where
  marker : Bool
  payloadType : Fin 128
  sequenceNumber : UInt16
  timestamp : UInt32
  ssrc : UInt32
  csrcs : List UInt32
  csrcs_lt : csrcs.length < 16
  headerExtension : Option HeaderExtension
  payload : List UInt8
  payload_ne : payload ≠ []
  padding : Option Padding

def encodeWords (words : List UInt32) : List UInt8 :=
  words.flatMap fun word => bytesBE 4 word.toNat

def HeaderExtension.encode (e : HeaderExtension) : List UInt8 :=
  bytesBE 2 e.profile.toNat ++ (bytesBE 2 e.words.length ++ encodeWords e.words)

/-- The last byte counts itself too. -/
def Padding.encode (p : Padding) : List UInt8 := p.filler ++ [UInt8.ofNat (p.filler.length + 1)]

namespace Packet

variable (p : Packet)

/-- Version, padding bit, extension bit and number of contributing sources. -/
def first : ℕ :=
  2 * 64 + p.padding.isSome.toNat * 32 + p.headerExtension.isSome.toNat * 16 + p.csrcs.length

def second : ℕ := p.marker.toNat * 128 + p.payloadType

def extensionBytes : List UInt8 := (p.headerExtension.map HeaderExtension.encode).getD []

def paddingBytes : List UInt8 := (p.padding.map Padding.encode).getD []

/-- What follows the fixed header. -/
def afterHeader : List UInt8 :=
  encodeWords p.csrcs ++ (p.extensionBytes ++ (p.payload ++ p.paddingBytes))

def encode : List UInt8 :=
  UInt8.ofNat p.first :: UInt8.ofNat p.second :: (bytesBE 2 p.sequenceNumber.toNat ++
    (bytesBE 4 p.timestamp.toNat ++ (bytesBE 4 p.ssrc.toNat ++ p.afterHeader)))

/-- The packet is parsed with this payload. -/
def ParsesTo (payload : List UInt8) : Prop :=
  parseRTP p.encode = .ok (some
    { ssrc := p.ssrc.toNat, sequenceNumber := p.sequenceNumber.toNat
      timestamp := p.timestamp.toNat, payloadType := p.payloadType, payload })

instance (payload : List UInt8) : Decidable (p.ParsesTo payload) :=
  inferInstanceAs (Decidable (_ = _))

end Packet

/-! ### The parser reads what is there -/

section InBounds

variable {buf : List UInt8}

theorem skipExtension_ok (buf : List UInt8) (hasExtension offset : ℕ) :
    ∃ result, skipExtension buf hasExtension offset = .ok result := by
  rw [skipExtension]
  split_ifs with hextension hshort
  · exact ⟨none, rfl⟩
  · have hle : offset + 2 + 2 ≤ buf.length := by omega
    exact ⟨_, by rw [readUIntBE_of_le hle]; rfl⟩
  · exact ⟨some offset, rfl⟩

theorem parseVersion2_ok (hlength : 12 ≤ buf.length) (first : ℕ) :
    ∃ result, parseVersion2 buf first = .ok result := by
  obtain ⟨offset, hoffset⟩ :=
    skipExtension_ok buf ((first >>> 4) &&& 0x1) (12 + (first &&& 0x0f) * 4)
  rw [parseVersion2, readByte_of_lt (by omega), readUIntBE_of_le (by omega),
    readUIntBE_of_le (by omega), readUIntBE_of_le (by omega)]
  simp only [bind, Except.bind, hoffset]
  cases offset with
  | none => exact ⟨none, rfl⟩
  | some offset =>
      dsimp only
      split_ifs
      · exact ⟨none, rfl⟩
      · exact ⟨_, rfl⟩

/-- No read leaves the buffer, whatever its length fields say. -/
theorem parseRTP_ok (buf : List UInt8) : ∃ result, parseRTP buf = .ok result := by
  rw [parseRTP]
  split_ifs with hshort
  · exact ⟨none, rfl⟩
  · rw [readByte_of_lt (by omega)]
    simp only [bind, Except.bind]
    split_ifs
    · exact ⟨none, rfl⟩
    · exact parseVersion2_ok (by omega) _

end InBounds

/-! ### Packets are parsed -/

namespace Packet

variable (p : Packet)

/-! The two bytes of flags. -/

theorem first_lt : p.first < 256 := by
  have hpadding := Bool.toNat_le p.padding.isSome
  have hextension := Bool.toNat_le p.headerExtension.isSome
  have hcsrcs := p.csrcs_lt
  rw [first]
  omega

theorem second_lt : p.second < 256 := by
  have hmarker := Bool.toNat_le p.marker
  have htype := p.payloadType.isLt
  rw [second]
  omega

theorem first_version : (p.first >>> 6) &&& 0x3 = 2 := by
  have hpadding := Bool.toNat_le p.padding.isSome
  have hextension := Bool.toNat_le p.headerExtension.isSome
  have hcsrcs := p.csrcs_lt
  rw [Nat.and_two_pow_sub_one_eq_mod _ 2, Nat.shiftRight_eq_div_pow, first]
  omega

theorem first_extension : (p.first >>> 4) &&& 0x1 = p.headerExtension.isSome.toNat := by
  have hpadding := Bool.toNat_le p.padding.isSome
  have hextension := Bool.toNat_le p.headerExtension.isSome
  have hcsrcs := p.csrcs_lt
  rw [Nat.and_two_pow_sub_one_eq_mod _ 1, Nat.shiftRight_eq_div_pow, first]
  omega

theorem first_csrcs : p.first &&& 0x0f = p.csrcs.length := by
  have hcsrcs := p.csrcs_lt
  rw [Nat.and_two_pow_sub_one_eq_mod _ 4, first]
  omega

theorem second_payloadType : p.second &&& 0x7f = p.payloadType := by
  have htype := p.payloadType.isLt
  rw [Nat.and_two_pow_sub_one_eq_mod _ 7, second]
  omega

/-! The numbers of the fixed header. -/

theorem readByte_zero : readByte p.encode 0 = .ok p.first := by
  rw [encode, readByte_of_lt (Nat.succ_pos _), List.getElem_cons_zero,
    UInt8.toNat_ofNat_of_lt' p.first_lt]

theorem readByte_one : readByte p.encode 1 = .ok p.second := by
  have hlt : 1 < p.encode.length := by simp [encode]
  rw [readByte_of_lt hlt]
  exact congrArg Except.ok (UInt8.toNat_ofNat_of_lt' p.second_lt)

theorem read_sequenceNumber : readUIntBE 2 p.encode 2 = .ok p.sequenceNumber.toNat := by
  have hbuf : p.encode = [UInt8.ofNat p.first, UInt8.ofNat p.second] ++
      (bytesBE 2 p.sequenceNumber.toNat ++
        (bytesBE 4 p.timestamp.toNat ++ (bytesBE 4 p.ssrc.toNat ++ p.afterHeader))) := rfl
  exact readUIntBE_bytesBE hbuf rfl p.sequenceNumber.toNat_lt

theorem read_timestamp : readUIntBE 4 p.encode 4 = .ok p.timestamp.toNat := by
  have hbuf : p.encode = ([UInt8.ofNat p.first, UInt8.ofNat p.second] ++
      bytesBE 2 p.sequenceNumber.toNat) ++
        (bytesBE 4 p.timestamp.toNat ++ (bytesBE 4 p.ssrc.toNat ++ p.afterHeader)) := rfl
  exact readUIntBE_bytesBE hbuf rfl p.timestamp.toNat_lt

/-- The twelve bytes that every packet has. -/
def fixedHeader : List UInt8 :=
  UInt8.ofNat p.first :: UInt8.ofNat p.second :: (bytesBE 2 p.sequenceNumber.toNat ++
    (bytesBE 4 p.timestamp.toNat ++ bytesBE 4 p.ssrc.toNat))

theorem encode_eq : p.encode = p.fixedHeader ++ p.afterHeader := rfl

theorem length_fixedHeader : p.fixedHeader.length = 12 := rfl

theorem read_ssrc : readUIntBE 4 p.encode 8 = .ok p.ssrc.toNat := by
  have hbuf : p.encode = ([UInt8.ofNat p.first, UInt8.ofNat p.second] ++
      (bytesBE 2 p.sequenceNumber.toNat ++ bytesBE 4 p.timestamp.toNat)) ++
        (bytesBE 4 p.ssrc.toNat ++ p.afterHeader) := rfl
  exact readUIntBE_bytesBE hbuf rfl p.ssrc.toNat_lt

theorem length_encodeWords (words : List UInt32) : (encodeWords words).length = words.length * 4 :=
  length_flatMap_bytesBE 4 UInt32.toNat words

/-- The payload begins where its list of sources and its extension end. -/
theorem skipExtension_encode :
    skipExtension p.encode p.headerExtension.isSome.toNat (12 + p.csrcs.length * 4) =
      .ok (some (12 + p.csrcs.length * 4 + p.extensionBytes.length)) := by
  cases h : p.headerExtension with
  | none => simp [skipExtension, extensionBytes, h]; rfl
  | some e =>
      have hbytes : p.extensionBytes = bytesBE 2 e.profile.toNat ++
          (bytesBE 2 e.words.length ++ encodeWords e.words) := by
        rw [extensionBytes, h]
        rfl
      have hbuf : p.encode = (p.fixedHeader ++ encodeWords p.csrcs ++ bytesBE 2 e.profile.toNat) ++
          (bytesBE 2 e.words.length ++ (encodeWords e.words ++ (p.payload ++ p.paddingBytes))) := by
        rw [encode_eq, afterHeader, hbytes]
        simp only [List.append_assoc]
      have hfront : (p.fixedHeader ++ encodeWords p.csrcs ++ bytesBE 2 e.profile.toNat).length =
          12 + p.csrcs.length * 4 + 2 := by
        simp only [List.length_append, length_fixedHeader, length_encodeWords, length_bytesBE]
      have hread : readUIntBE 2 p.encode (12 + p.csrcs.length * 4 + 2) = .ok e.words.length :=
        readUIntBE_bytesBE hbuf hfront e.words_lt
      have hlength : ¬ p.encode.length < 12 + p.csrcs.length * 4 + 4 := by
        rw [hbuf, List.length_append, hfront, List.length_append, length_bytesBE]
        omega
      have hextension : p.extensionBytes.length = 4 + e.words.length * 4 := by
        simp only [hbytes, List.length_append, length_bytesBE, length_encodeWords]
        omega
      rw [skipExtension, Option.isSome_some, if_pos (by decide), if_neg hlength, hread,
        hextension, ← Nat.add_assoc]
      rfl

/-- All that follows the extension is taken for the payload. -/
theorem drop_encode :
    p.encode.drop (12 + p.csrcs.length * 4 + p.extensionBytes.length) =
      p.payload ++ p.paddingBytes := by
  have hbuf : p.encode = (p.fixedHeader ++ encodeWords p.csrcs ++ p.extensionBytes) ++
      (p.payload ++ p.paddingBytes) := by
    rw [encode_eq, afterHeader]
    simp only [List.append_assoc]
  rw [hbuf]
  refine List.drop_left' ?_
  simp only [List.length_append, length_fixedHeader, length_encodeWords]

theorem parsesTo_payload_paddingBytes : p.ParsesTo (p.payload ++ p.paddingBytes) := by
  have hlength : p.encode.length = 12 + p.csrcs.length * 4 + p.extensionBytes.length +
      (p.payload ++ p.paddingBytes).length := by
    rw [encode_eq, afterHeader]
    simp only [List.length_append, length_fixedHeader, length_encodeWords]
    omega
  have hpayload : 0 < (p.payload ++ p.paddingBytes).length := by
    have := List.length_pos_iff.mpr p.payload_ne
    rw [List.length_append]
    omega
  have hlong : ¬ p.encode.length < 12 := by omega
  have hrest : ¬ p.encode.length ≤ 12 + p.csrcs.length * 4 + p.extensionBytes.length := by omega
  rw [ParsesTo, parseRTP, if_neg hlong, readByte_zero]
  simp only [bind, Except.bind, first_version, ne_eq, not_true, if_false]
  rw [parseVersion2, readByte_one, read_sequenceNumber, read_timestamp, read_ssrc, first_extension,
    first_csrcs]
  simp only [bind, Except.bind, second_payloadType, skipExtension_encode, if_neg hrest, drop_encode]
  rfl

theorem parsesTo_iff {payload : List UInt8} :
    p.ParsesTo payload ↔ payload = p.payload ++ p.paddingBytes := by
  constructor
  · intro h
    have heq := Except.ok.inj (h.symm.trans p.parsesTo_payload_paddingBytes)
    simpa using heq
  · rintro rfl
    exact p.parsesTo_payload_paddingBytes

theorem paddingBytes_eq_nil_iff : p.paddingBytes = [] ↔ p.padding = none := by
  cases h : p.padding with
  | none => simp [paddingBytes, h]
  | some padding => simp [paddingBytes, h, Padding.encode]

end Packet

/-- **RTP parsing is exact** for the packets without padding, and only for them;
the bytes of a buffer are never left. -/
theorem parseRTP_exact_iff (buf : List UInt8) (p : Packet) :
    (∃ result, parseRTP buf = .ok result) ∧ (p.ParsesTo p.payload ↔ p.padding = none) := by
  refine ⟨parseRTP_ok buf, ?_⟩
  rw [Packet.parsesTo_iff, ← Packet.paddingBytes_eq_nil_iff, List.self_eq_append_right]

/-- The padding is in the chunk that the handlers get. -/
theorem onMessage_encode {ssrcMap : ℕ → Option String} {participantId : String} {p : Packet}
    (hknown : ssrcMap p.ssrc.toNat = some participantId) (hne : participantId ≠ "") :
    onMessage ssrcMap p.encode = .ok (some ⟨participantId, p.payload ++ p.paddingBytes⟩) := by
  rw [onMessage, p.parsesTo_payload_paddingBytes]
  simp only [bind, Except.bind, hknown, if_neg hne]
  rfl

namespace Sample

/-- Three bytes of sound, padded to four. -/
def padded : Packet where
  marker := false
  payloadType := 100
  sequenceNumber := 1
  timestamp := 960
  ssrc := 7
  csrcs := []
  csrcs_lt := by decide
  headerExtension := none
  payload := [10, 20, 30]
  payload_ne := by decide
  padding := some ⟨[], by decide⟩

/-- The byte that counts the padding comes out as a fourth byte of sound. -/
theorem not_parsesTo_padded :
    ¬ ((∀ buf, ∃ result, parseRTP buf = .ok result) ∧ ∀ p : Packet, p.ParsesTo p.payload) := by
  rintro ⟨-, h⟩
  have hparsed := padded.parsesTo_iff.mp (h padded)
  revert hparsed
  decide

end Sample

end Greetup.Sources
