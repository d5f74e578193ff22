import BufferKeeper.Proofs.Codec

/-!
# Headers in a row

Headers that are added to a buffer one after another, each at its end, lie side by side behind what
the buffer began with, which need not end at any boundary. Each of them is found by its number alone
and decodes from its own 20 bytes, whatever comes after them.
-/

namespace BufferKeeper

namespace Header

/-! ## 1. Adding headers -/

theorem length_appendTo (buffer : List UInt8) (h : Header) :
    (appendTo buffer h).length = buffer.length + headerSize := by
  rw [appendTo, List.length_append, length_encode]

-- On the headers; the buffer grows by one of them at each step.
theorem foldl_appendTo (buffer : List UInt8) (headers : List Header) :
    headers.foldl appendTo buffer = buffer ++ headers.flatMap encode := by
  induction headers generalizing buffer with
  | nil => exact (List.append_nil buffer).symm
  | cons h rest ih => rw [List.foldl_cons, ih, appendTo, List.flatMap_cons, List.append_assoc]

theorem length_foldl_appendTo (buffer : List UInt8) (headers : List Header) :
    (headers.foldl appendTo buffer).length = buffer.length + headerSize * headers.length := by
  induction headers generalizing buffer with
  | nil => rfl
  | cons h rest ih =>
    rw [List.foldl_cons, ih, length_appendTo, List.length_cons, Nat.mul_succ]
    omega

/-! ## 2. Finding them again -/

theorem drop_flatMap_encode (headers : List Header) (i : Nat) :
    (headers.flatMap encode).drop (headerSize * i) = (headers.drop i).flatMap encode := by
  induction headers generalizing i with
  | nil => simp
  | cons h rest ih =>
    cases i with
    | zero => rfl
    | succ i =>
      have hplace : headerSize * (i + 1) = h.encode.length + headerSize * i := by
        rw [length_encode, Nat.mul_succ, Nat.add_comm]
      rw [List.flatMap_cons, hplace, List.drop_length_add_append, ih, List.drop_succ_cons]

theorem drop_foldl_appendTo {headers : List Header} {i : Nat} {h : Header}
    (hi : headers[i]? = some h) (buffer : List UInt8) :
    (headers.foldl appendTo buffer).drop (buffer.length + headerSize * i) =
      h.encode ++ (headers.drop (i + 1)).flatMap encode := by
  obtain ⟨hlt, rfl⟩ := List.getElem?_eq_some_iff.mp hi
  rw [foldl_appendTo, List.drop_length_add_append, drop_flatMap_encode,
    List.drop_eq_getElem_cons hlt, List.flatMap_cons]

end Header

/-! ## 3. The law -/

/-- Headers added one after another to a buffer that begins with `front` leave `front` as it is and
take 20 bytes each. The one with number `i` decodes from the buffer at its place, with its operation
read off the tag, and from its own bytes there with anything else behind them. -/
theorem appended_headers_split_back (front : List UInt8) (headers : List Header) :
    let buffer := headers.foldl Header.appendTo front
    buffer.take front.length = front ∧
      buffer.length = front.length + headerSize * headers.length ∧
      ∀ i header, headers[i]? = some header →
        let found : Header := { header with opcode := .ofTag header.opcode.tag }
        let place := front.length + headerSize * i
        Header.decode (buffer.drop place) = .ok found ∧
          ∀ rest, Header.decode ((buffer.drop place).take headerSize ++ rest) = .ok found := by
  intro buffer
  refine ⟨?_, Header.length_foldl_appendTo front headers, fun i header hi => ?_⟩
  · dsimp only [buffer]
    rw [Header.foldl_appendTo, List.take_left]
  · intro found place
    have hplace : buffer.drop place = header.encode ++ (headers.drop (i + 1)).flatMap Header.encode :=
      Header.drop_foldl_appendTo hi front
    rw [hplace, List.take_left' (Header.length_encode header)]
    exact ⟨Header.decode_encode_append header _, Header.decode_encode_append header⟩

/-- Three bytes stand in front of two headers. The second, whose operation is unknown but has the tag
of a write, is found behind 23 bytes as a write, also where only half of another header follows. -/
theorem second_header_behind_three_bytes :
    let first : Header := ⟨.reset, 0xffffffffffffffff, 0⟩
    let second : Header := ⟨.unknown 1, 3, 5⟩
    let buffer := Header.appendTo (Header.appendTo [7, 7, 7] first) second
    buffer.length = 43 ∧ Header.decode (buffer.drop 23) = .ok ⟨.write, 3, 5⟩ ∧
      Header.decode ((buffer.drop 23).take 20 ++ first.encode.take 10) = .ok ⟨.write, 3, 5⟩ := by
  intro first second buffer
  obtain ⟨-, hlen, hdecode⟩ := appended_headers_split_back [7, 7, 7] [first, second]
  obtain ⟨hfound, hfound'⟩ := hdecode 1 second rfl
  exact ⟨hlen, hfound, hfound' _⟩

end BufferKeeper
