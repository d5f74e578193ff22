import BufferKeeper.Packet.Basic

/-!
# Packets read back

Decoding takes an encoded header back from the front of whatever bytes follow it, and an encoded
packet back whole. Only the operation may change on the way: an unknown code that carries a known
tag arrives as the operation of that tag (`Opcode.normalize`). The other way round, all bytes that
hold a header are the encoding of what they decode to, so packets with normal operations and byte
strings of at least 20 bytes are the same thing (`Packet.decode_eq_ok_iff`).
-/

namespace BufferKeeper

open Bytes

theorem Bytes.toNatLE_ofNatLE_of_lt {width n : Nat} (h : n < wordCount width) :
    toNatLE (ofNatLE width n) = n := by
  rw [toNatLE_ofNatLE, Nat.mod_eq_of_lt h]

theorem Bytes.toNatLE_lt_of_length {bs : List UInt8} {width : Nat} (h : bs.length = width) :
    toNatLE bs < wordCount width := by
  rw [← h]
  exact toNatLE_lt bs

theorem Bytes.ofNatLE_toNatLE_of_length {bs : List UInt8} {width : Nat} (h : bs.length = width) :
    ofNatLE width (toNatLE bs) = bs := by
  rw [← h, ofNatLE_toNatLE]

theorem Bytes.ofNatLE_toUInt32 {bs : List UInt8} (h : bs.length = 4) :
    ofNatLE 4 (UInt32.ofNat (toNatLE bs)).toNat = bs := by
  rw [UInt32.toNat_ofNat_of_lt' (toNatLE_lt_of_length h), ofNatLE_toNatLE_of_length h]

theorem Bytes.ofNatLE_toUInt64 {bs : List UInt8} (h : bs.length = 8) :
    ofNatLE 8 (UInt64.ofNat (toNatLE bs)).toNat = bs := by
  rw [UInt64.toNat_ofNat_of_lt' (toNatLE_lt_of_length h), ofNatLE_toNatLE_of_length h]

/-! ## 1. Headers -/

namespace Opcode

theorem normalize_ofTag (t : UInt32) : (ofTag t).normalize = ofTag t := by
  rw [normalize, tag_ofTag]

theorem tag_normalize (op : Opcode) : op.normalize.tag = op.tag := by
  rw [normalize, tag_ofTag]

end Opcode

namespace Header

theorem encode_append (h : Header) (rest : List UInt8) :
    h.encode ++ rest =
      ofNatLE 4 h.opcode.tag.toNat ++
        (ofNatLE 8 h.offset.toNat ++ (ofNatLE 8 h.length.toNat ++ rest)) := by
  simp only [encode, List.append_assoc]

theorem decode_encode_append (h : Header) (rest : List UInt8) :
    decode (h.encode ++ rest) = .ok { h with opcode := h.opcode.normalize } := by
  have htag : UInt32.ofNat (toNatLE ((h.encode ++ rest).take 4)) = h.opcode.tag := by
    rw [encode_append, List.take_left' (length_ofNatLE _ _),
      toNatLE_ofNatLE_of_lt h.opcode.tag.toNat_lt, UInt32.ofNat_toNat]
  have hoffset : UInt64.ofNat (toNatLE (((h.encode ++ rest).drop 4).take 8)) = h.offset := by
    rw [encode_append, List.drop_left' (length_ofNatLE _ _), List.take_left' (length_ofNatLE _ _),
      toNatLE_ofNatLE_of_lt h.offset.toNat_lt, UInt64.ofNat_toNat]
  have hlength : UInt64.ofNat (toNatLE (((h.encode ++ rest).drop 12).take 8)) = h.length := by
    rw [encode_append, ← List.append_assoc, List.drop_left' (by simp),
      List.take_left' (length_ofNatLE _ _), toNatLE_ofNatLE_of_lt h.length.toNat_lt,
      UInt64.ofNat_toNat]
  unfold decode
  rw [if_neg (by simp [headerSize]), htag, hoffset, hlength]
  rfl

theorem decode_of_short {input : List UInt8} (h : input.length < headerSize) :
    decode input = .error (.tooShort input.length) := by
  unfold decode
  rw [if_pos h]

theorem exists_decode_eq_ok {input : List UInt8} (h : headerSize ≤ input.length) :
    ∃ header, decode input = .ok header := by
  unfold decode
  rw [if_neg (Nat.not_lt.mpr h)]
  exact ⟨_, rfl⟩

-- The three fields lie side by side, so writing each again gives back all of the header's bytes.
theorem encode_of_decode {input : List UInt8} {h : Header} (hdecode : decode input = .ok h) :
    h.encode = input.take headerSize ∧ h.opcode.normalize = h.opcode := by
  unfold decode at hdecode
  split at hdecode
  · cases hdecode
  · rename_i hshort
    have hlen : headerSize ≤ input.length := Nat.le_of_not_lt hshort
    unfold headerSize at hlen ⊢
    have htag : (input.take 4).length = 4 := by
      rw [List.length_take]
      omega
    have hoffset : ((input.drop 4).take 8).length = 8 := by
      rw [List.length_take, List.length_drop]
      omega
    have hlength : ((input.drop 12).take 8).length = 8 := by
      rw [List.length_take, List.length_drop]
      omega
    have hfields : input.take 20 =
        input.take 4 ++ (input.drop 4).take 8 ++ (input.drop 12).take 8 := by
      rw [show 20 = 4 + 8 + 8 by omega, List.take_add, List.take_add]
    cases hdecode
    constructor
    · rw [encode, Opcode.tag_ofTag, ofNatLE_toUInt32 htag, ofNatLE_toUInt64 hoffset,
        ofNatLE_toUInt64 hlength, hfields]
    · exact Opcode.normalize_ofTag _

end Header

/-! ## 2. Packets -/

namespace Packet

theorem length_encode (p : Packet) : p.encode.length = headerSize + p.payload.length := by
  rw [encode, List.length_append, Header.length_encode]

theorem decode_encode (p : Packet) :
    decode p.encode =
      .ok { p with header := { p.header with opcode := p.header.opcode.normalize } } := by
  unfold decode encode
  rw [Header.decode_encode_append, List.drop_left' (Header.length_encode _)]
  rfl

theorem decode_encode_of_normal {p : Packet} (h : p.header.opcode.normalize = p.header.opcode) :
    decode p.encode = .ok p := by
  rw [decode_encode, h]

theorem decode_of_short {input : List UInt8} (h : input.length < headerSize) :
    decode input = .error (.tooShort input.length) := by
  unfold decode
  rw [Header.decode_of_short h]
  rfl

theorem exists_decode_eq_ok {input : List UInt8} (h : headerSize ≤ input.length) :
    ∃ p, decode input = .ok p := by
  obtain ⟨header, hheader⟩ := Header.exists_decode_eq_ok h
  unfold decode
  rw [hheader]
  exact ⟨_, rfl⟩

theorem header_of_decode {input : List UInt8} {p : Packet} (h : decode input = .ok p) :
    Header.decode input = .ok p.header := by
  unfold decode at h
  cases hheader : Header.decode input with
  | error cause =>
    rw [hheader] at h
    cases h
  | ok header =>
    rw [hheader] at h
    cases h
    rfl

theorem decode_eq_ok_iff {input : List UInt8} {p : Packet} :
    decode input = .ok p ↔
      p.encode = input ∧ p.header.opcode.normalize = p.header.opcode := by
  constructor
  · intro h
    have hpayload := (payload_of_decode h).2
    have hheader := Header.encode_of_decode (header_of_decode h)
    refine ⟨?_, hheader.2⟩
    rw [encode, hheader.1, hpayload, List.take_append_drop]
  · rintro ⟨rfl, hnormal⟩
    exact decode_encode_of_normal hnormal

theorem encode_eq_encode_iff (p p' : Packet) :
    p.encode = p'.encode ↔
      p.header.opcode.tag = p'.header.opcode.tag ∧ p.header.offset = p'.header.offset ∧
        p.header.length = p'.header.length ∧ p.payload = p'.payload := by
  constructor
  · intro h
    have hsame := congrArg decode h
    rw [decode_encode, decode_encode] at hsame
    simp only [Except.ok.injEq, mk.injEq, Header.mk.injEq] at hsame
    have htag := congrArg Opcode.tag hsame.1.1
    rw [Opcode.tag_normalize, Opcode.tag_normalize] at htag
    exact ⟨htag, hsame.1.2.1, hsame.1.2.2, hsame.2⟩
  · rintro ⟨htag, hoffset, hlength, hpayload⟩
    rw [encode, encode, Header.encode, Header.encode, htag, hoffset, hlength, hpayload]

end Packet

/-! ## 3. The law -/

/-- Encoding and decoding undo each other, but for operations that are sent as unknown with a known
tag. Bytes are a packet unless they are too few for a header, and are then its encoding; a packet is
taken back with its operation read off the tag; and packets are encoded alike only if they agree in
tag, offset, length and payload. -/
theorem decode_inverts_encode_but_for_tags :
    (∀ input, headerSize ≤ input.length →
        ∃ p, Packet.decode input = .ok p ∧ p.encode = input) ∧
      (∀ input, input.length < headerSize →
        Packet.decode input = .error (.tooShort input.length)) ∧
      (∀ op offset length data,
        Packet.decode (Packet.encode ⟨⟨op, offset, length⟩, data⟩) =
          .ok ⟨⟨.ofTag op.tag, offset, length⟩, data⟩) ∧
      (∀ op : Opcode,
        .ofTag op.tag = op ↔ op ≠ .unknown 0 ∧ op ≠ .unknown 1 ∧ op ≠ .unknown 2) ∧
      ∀ p p' : Packet, p.encode = p'.encode ↔
        p.header.opcode.tag = p'.header.opcode.tag ∧ p.header.offset = p'.header.offset ∧
          p.header.length = p'.header.length ∧ p.payload = p'.payload := by
  refine ⟨?_, fun _ => Packet.decode_of_short, ?_, Opcode.normalize_eq_self_iff,
    Packet.encode_eq_encode_iff⟩
  · intro input hlen
    obtain ⟨p, hp⟩ := Packet.exists_decode_eq_ok hlen
    exact ⟨p, hp, (Packet.decode_eq_ok_iff.mp hp).1⟩
  · intro op offset length data
    exact Packet.decode_encode _

/-- An operation that is sent as unknown with the tag of a write arrives as a write, and nobody can
tell from the bytes; without the last byte of its header it is no packet. -/
theorem write_sent_as_unknown :
    let sent : Packet := ⟨⟨.unknown 1, 3, 5⟩, [7]⟩
    let write : Packet := ⟨⟨.write, 3, 5⟩, [7]⟩
    Packet.decode sent.encode = .ok write ∧ write.encode = sent.encode ∧
      (∃ p, Packet.decode sent.encode = .ok p ∧ p.encode = sent.encode) ∧
      Packet.decode (sent.encode.take 19) = .error (.tooShort 19) := by
  intro sent write
  obtain ⟨hlong, hshort, hback, -, hsame⟩ := decode_inverts_encode_but_for_tags
  refine ⟨hback (.unknown 1) 3 5 [7], ?_, hlong sent.encode (by decide), ?_⟩
  · exact (hsame write sent).mpr (by decide)
  · exact hshort (sent.encode.take 19) (by decide)

end BufferKeeper
