import BufferKeeper.Proofs.Calls

/-!
# Clients with ranges of their own

Two clients share a server. As long as the calls of each keep to positions that the other's never
touch, neither can tell that the other is there: under both policies, and in whatever order their
calls arrive, each gets the replies that it would get alone, and finds its positions holding what
they would hold. Calls whose range is refused are no exception, because the length that decides it
never changes.
-/

namespace BufferKeeper

open Bytes

/-! ## 1. Calls that keep to a zone -/

/-- A read or a write of positions of the zone only; an empty range lies in any zone. -/
def Call.Within (zone : Nat → Prop) : Call → Prop
  | .read offset length => ∀ i, offset.toNat ≤ i → i < offset.toNat + length.toNat → zone i
  | .write offset data => ∀ i, offset.toNat ≤ i → i < offset.toNat + data.length → zone i
  | .reset _ => False
  | .raw _ => False

/-- Both regions are present, have the same length, and hold the same bytes in the zone. -/
def Region.AgreeOn (zone : Nat → Prop) (region region' : Region) : Prop :=
  ∃ bytes bytes', region = ⟨some bytes⟩ ∧ region' = ⟨some bytes'⟩ ∧ bytes.length = bytes'.length ∧
    ∀ i, zone i → bytes[i]? = bytes'[i]?

variable {zone other : Nat → Prop} {bytes bytes' : List UInt8} {k k' : Keeper} {call : Call}

theorem Bytes.fetched_congr {start count : Nat} (hlen : bytes.length = bytes'.length)
    (hsame : ∀ i, start ≤ i → i < start + count → bytes[i]? = bytes'[i]?) :
    fetched bytes start count = fetched bytes' start count := by
  unfold fetched
  rw [hlen, slice_congr hsame]

theorem Bytes.written_congr {data : List UInt8} (start : Nat) {i : Nat}
    (hlen : bytes.length = bytes'.length) (hsame : bytes[i]? = bytes'[i]?) :
    (written bytes start data)[i]? = (written bytes' start data)[i]? := by
  by_cases hi : start ≤ i ∧ i < start + data.length
  · rw [getElem?_written_of_inside hi, getElem?_written_of_inside hi, hlen, hsame]
  · rw [getElem?_written_of_outside hi, getElem?_written_of_outside hi, hsame]

-- A call of one's own: both servers give the same reply, and go on agreeing.
theorem Region.AgreeOn.step (h : k.region.AgreeOn zone k'.region) (hwithin : call.Within zone)
    (hsize : call.packet.length ≤ maxPacketSize) :
    (Link.up.call k call).1 = (Link.up.call k' call).1 ∧
      (Link.up.call k call).2.region.AgreeOn zone (Link.up.call k' call).2.region := by
  obtain ⟨bytes, bytes', hregion, hregion', hlen, hsame⟩ := h
  cases call with
  | read offset length =>
    obtain ⟨hreply, hafter⟩ := Link.call_read hregion offset length
    obtain ⟨hreply', hafter'⟩ := Link.call_read hregion' offset length
    have hfetched : fetched bytes offset.toNat length.toNat =
        fetched bytes' offset.toNat length.toNat :=
      fetched_congr hlen fun i hlow hhigh => hsame i (hwithin i hlow hhigh)
    exact ⟨by rw [hreply, hreply', hfetched], bytes, bytes', hafter, hafter', hlen, hsame⟩
  | write offset data =>
    obtain ⟨hreply, hafter⟩ := Link.call_write hregion offset hsize
    obtain ⟨hreply', hafter'⟩ := Link.call_write hregion' offset hsize
    refine ⟨by rw [hreply, hreply'], _, _, hafter, hafter', ?_, fun i hi => ?_⟩
    · rw [length_written, length_written, hlen]
    · exact written_congr offset.toNat hlen (hsame i hi)
  | reset data => exact hwithin.elim
  | raw packet => exact hwithin.elim

-- A call of the other client: the server that takes it goes on agreeing with the one that does not.
theorem Region.AgreeOn.skip (h : k.region.AgreeOn zone k'.region) (hwithin : call.Within other)
    (hdisjoint : ∀ i, zone i → ¬other i) (hsize : call.packet.length ≤ maxPacketSize) :
    (Link.up.call k call).2.region.AgreeOn zone k'.region := by
  obtain ⟨bytes, bytes', hregion, hregion', hlen, hsame⟩ := h
  cases call with
  | read offset length =>
    obtain ⟨-, hafter⟩ := Link.call_read hregion offset length
    exact ⟨bytes, bytes', hafter, hregion', hlen, hsame⟩
  | write offset data =>
    obtain ⟨-, hafter⟩ := Link.call_write hregion offset hsize
    refine ⟨_, bytes', hafter, hregion', by rw [length_written, hlen], fun i hi => ?_⟩
    have houtside : ¬(offset.toNat ≤ i ∧ i < offset.toNat + data.length) := by
      rintro ⟨hlow, hhigh⟩
      exact hdisjoint i hi (hwithin i hlow hhigh)
    rw [getElem?_written_of_outside houtside]
    exact hsame i hi
  | reset data => exact hwithin.elim
  | raw packet => exact hwithin.elim

/-! ## 2. Two clients -/

inductive Client where
  | first
  | second
  deriving DecidableEq

/-- A call and the client that makes it. Visits in a row are the calls of two clients in the order
of their arrival, so any interleaving of two lists of calls is such a row. -/
structure Visit where
  client : Client
  call : Call

def callsOf (client : Client) (visits : List Visit) : List Call :=
  (visits.filter fun visit => visit.client = client).map Visit.call

def Link.repliesTo (link : Link) (k : Keeper) (client : Client) (visits : List Visit) :
    List (Except Fault (List UInt8)) :=
  ((visits.zip (link.replies k (visits.map Visit.call))).filter
    fun x => x.1.client = client).map Prod.snd

variable {link : Link} {client : Client} {visit : Visit} {visits : List Visit}

theorem callsOf_cons_of_eq (h : visit.client = client) :
    callsOf client (visit :: visits) = visit.call :: callsOf client visits := by
  unfold callsOf
  rw [List.filter_cons_of_pos (by simpa using h), List.map_cons]

theorem callsOf_cons_of_ne (h : visit.client ≠ client) :
    callsOf client (visit :: visits) = callsOf client visits := by
  unfold callsOf
  rw [List.filter_cons_of_neg (by simpa using h)]

theorem Link.repliesTo_cons_of_eq (h : visit.client = client) :
    link.repliesTo k client (visit :: visits) =
      (link.call k visit.call).1 :: link.repliesTo (link.call k visit.call).2 client visits := by
  unfold repliesTo
  rw [List.map_cons, replies, List.zip_cons_cons, List.filter_cons_of_pos (by simpa using h),
    List.map_cons]

theorem Link.repliesTo_cons_of_ne (h : visit.client ≠ client) :
    link.repliesTo k client (visit :: visits) =
      link.repliesTo (link.call k visit.call).2 client visits := by
  unfold repliesTo
  rw [List.map_cons, replies, List.zip_cons_cons, List.filter_cons_of_neg (by simpa using h)]

/-! ## 3. The law -/

/-- Every position is of one client at most. -/
def Apart (zone : Client → Nat → Prop) : Prop :=
  ∀ client client', client ≠ client' → ∀ i, zone client i → ¬zone client' i

/-- The visits fit into a packet each, and keep to the zones of their clients. -/
def Confined (zone : Client → Nat → Prop) (visits : List Visit) : Prop :=
  ∀ visit ∈ visits, visit.call.packet.length ≤ maxPacketSize ∧ visit.call.Within (zone visit.client)

-- The server of all visits and the one of the client alone agree on the client's zone throughout.
theorem Region.AgreeOn.run {zone : Client → Nat → Prop} (hapart : Apart zone)
    (hconfined : Confined zone visits) (h : k.region.AgreeOn (zone client) k'.region) :
    Link.up.repliesTo k client visits = Link.up.replies k' (callsOf client visits) ∧
      (Link.up.keeperAfter k (visits.map Visit.call)).region.AgreeOn (zone client)
        (Link.up.keeperAfter k' (callsOf client visits)).region := by
  induction visits generalizing k k' with
  | nil => exact ⟨rfl, h⟩
  | cons visit rest ih =>
    obtain ⟨hsize, hwithin⟩ := hconfined visit List.mem_cons_self
    have hrest : Confined zone rest := fun x hx => hconfined x (List.mem_cons_of_mem _ hx)
    by_cases hmine : visit.client = client
    · rw [hmine] at hwithin
      obtain ⟨hreply, hnext⟩ := h.step hwithin hsize
      obtain ⟨hreplies, hend⟩ := ih hrest hnext
      rw [Link.repliesTo_cons_of_eq hmine, callsOf_cons_of_eq hmine, Link.replies, hreply, hreplies]
      exact ⟨rfl, hend⟩
    · have hnext := h.skip hwithin (hapart client visit.client (Ne.symm hmine)) hsize
      obtain ⟨hreplies, hend⟩ := ih hrest hnext
      rw [Link.repliesTo_cons_of_ne hmine, callsOf_cons_of_ne hmine, hreplies]
      exact ⟨rfl, hend⟩

/-- After a reset of a fresh server, under either policy, two clients make reads and writes in any
order, and each keeps to a zone that the other's does not meet. Then each client gets the replies
that it gets without the other's calls, and at the end its zone holds the same bytes. -/
theorem disjoint_clients_do_not_interfere (policy : Policy) {data : List UInt8}
    (hdata : data.length ≤ capacity) {zone : Client → Nat → Prop} (hapart : Apart zone)
    {visits : List Visit} (hconfined : Confined zone visits) (client : Client) :
    let k := (Link.up.call (.fresh policy) (.reset data)).2
    Link.up.repliesTo k client visits = Link.up.replies k (callsOf client visits) ∧
      ∃ together alone,
        (Link.up.keeperAfter k (visits.map Visit.call)).region.contents = some together ∧
        (Link.up.keeperAfter k (callsOf client visits)).region.contents = some alone ∧
        together.length = alone.length ∧ ∀ i, zone client i → together[i]? = alone[i]? := by
  intro k
  have hregion : k.region = ⟨some data⟩ := (Link.call_reset (.fresh policy) hdata).2
  have hagree : k.region.AgreeOn (zone client) k.region :=
    ⟨data, data, hregion, hregion, rfl, fun _ _ => rfl⟩
  obtain ⟨hreplies, together, alone, htogether, halone, hlen, hsame⟩ :=
    hagree.run hapart hconfined
  exact ⟨hreplies, together, alone, congrArg Region.contents htogether,
    congrArg Region.contents halone, hlen, hsame⟩

/-- Six bytes are stored under `vulnerable`, three for each client. The second client's write past
the end is refused, its other one is done, and the first client reads what it wrote itself. -/
theorem two_clients_of_six_bytes :
    let zone : Client → Nat → Prop := fun client i => if client = .first then i < 3 else 3 ≤ i
    let visits : List Visit := [⟨.first, .write 0 [9, 9]⟩, ⟨.second, .write 4 [7, 7, 7]⟩,
      ⟨.second, .write 3 [8]⟩, ⟨.first, .read 0 3⟩, ⟨.second, .read 3 3⟩]
    let data : List UInt8 := [1, 2, 3, 4, 5, 6]
    let k := (Link.up.call (.fresh .vulnerable) (.reset data)).2
    Apart zone ∧ Confined zone visits ∧
      (Link.up.repliesTo k .first visits).map Except.toOption = [some [], some [9, 9, 3]] ∧
      (Link.up.repliesTo k .second visits).map Except.toOption =
        [some [], some [], some [8, 5, 6]] := by
  intro zone visits data k
  have hapart : Apart zone := by
    intro client client' hne i
    cases client <;> cases client' <;> simp [zone] at hne ⊢
  have hconfined : Confined zone visits := by
    have hfirst (i : Nat) (h : i < 3) : zone .first i := by simpa [zone] using h
    have hsecond (i : Nat) (h : 3 ≤ i) : zone .second i := by simpa [zone] using h
    simp only [Confined, visits, List.forall_mem_cons]
    refine ⟨⟨by decide +kernel, ?_⟩, ⟨by decide +kernel, ?_⟩, ⟨by decide +kernel, ?_⟩,
      ⟨by decide +kernel, ?_⟩, ⟨by decide +kernel, ?_⟩, by simp⟩
    · exact fun i _ hhigh => hfirst i (by simp at hhigh; omega)
    · exact fun i hlow _ => hsecond i (by simp at hlow; omega)
    · exact fun i hlow _ => hsecond i (by simp at hlow; omega)
    · exact fun i _ hhigh => hfirst i (by simp at hhigh; omega)
    · exact fun i hlow _ => hsecond i (by simp at hlow; omega)
  have hdata : data.length ≤ capacity := by decide
  have happly := disjoint_clients_do_not_interfere .vulnerable hdata hapart hconfined
  refine ⟨hapart, hconfined, ?_, ?_⟩
  · rw [(happly .first).1]
    decide +kernel
  · rw [(happly .second).1]
    decide +kernel

end BufferKeeper
