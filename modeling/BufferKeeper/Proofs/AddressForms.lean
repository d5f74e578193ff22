import BufferKeeper.Address.Socket
import BufferKeeper.Proofs.Numerals

/-!
# Written addresses

The written form of a socket address reads back as that address. For an IPv6 address it does not matter
which run of zero groups is left out, only that all groups in it are zero; the groups on either side of
the gap are read by the same series (`readSeries_append`), which ends where something else begins.
-/

namespace BufferKeeper.Address

open Text

variable {s : List Char}

/-! ## 1. IPv4 -/

namespace IPv4

theorem readOctet_append (b : UInt8) (hs : EndsDigits 10 s) :
    readOctet (Nat.toDigits 10 b.toNat ++ s) = some (b, s) := by
  have hsize : b.toNat < 256 := UInt8.toNat_lt b
  have hlength : (Nat.toDigits 10 b.toNat).length ≤ 3 :=
    (Nat.length_toDigits_le_iff (by decide) (by decide)).mpr (by omega)
  have hlead : ¬((Nat.toDigits 10 b.toNat).head? = some '0' ∧
      1 < (Nat.toDigits 10 b.toNat).length) := by
    rintro ⟨hzero, hlong⟩
    by_cases hb : b.toNat = 0
    · rw [hb] at hlong
      exact absurd hlong (by decide)
    · exact head?_toDigits_ne_zero (by decide) (by decide) hb hzero
  unfold readOctet
  rw [digitRun_toDigits_append (by decide) (by decide) b.toNat hs]
  dsimp only
  rw [valueOf_toDigits (by decide) (by decide),
    if_pos ⟨Nat.toDigits_ne_nil, hlength, hlead, by omega⟩, UInt8.ofNat_toNat]

theorem toList_render (ip : IPv4) :
    ip.render.toList = Nat.toDigits 10 ip.first.toNat ++ '.' ::
      (Nat.toDigits 10 ip.second.toNat ++ '.' ::
        (Nat.toDigits 10 ip.third.toNat ++ '.' :: Nat.toDigits 10 ip.fourth.toNat)) := by
  simp [render, decimal]

theorem read_append (ip : IPv4) (hs : EndsDigits 10 s) :
    read (ip.render.toList ++ s) = some (ip, s) := by
  have hdot (t : List Char) : EndsDigits 10 ('.' :: t) := endsDigits_cons (by decide) t
  rw [toList_render]
  simp only [List.append_assoc, List.cons_append]
  unfold read
  simp only [readOctet_append _ (hdot _), readOctet_append _ hs, skipChar_cons, Option.bind_eq_bind,
    Option.bind_some, Option.pure_def]

-- An address of this kind has a dot behind its first digits.
theorem read_eq_none (h : (s.dropWhile (isDigitIn 10)).head? ≠ some '.') : read s = none := by
  unfold read
  cases hoctet : readOctet s with
  | none => rfl
  | some found =>
    obtain ⟨octet, rest⟩ := found
    have hrest : rest = s.dropWhile (isDigitIn 10) := by
      unfold readOctet at hoctet
      dsimp only at hoctet
      split at hoctet
      · cases hoctet
        rfl
      · cases hoctet
    have hdot : skipChar '.' rest = none := by
      rw [hrest]
      cases hbehind : s.dropWhile (isDigitIn 10) with
      | nil => rfl
      | cons c t =>
        rw [hbehind] at h
        exact if_neg fun hc => h (congrArg some hc)
    show ((skipChar '.' rest).bind fun s => _) = none
    rw [hdot]
    rfl

theorem read_eq_none_of_endsDigits (hs : EndsDigits 10 s) (hdot : s.head? ≠ some '.') :
    read s = none := by
  apply read_eq_none
  have hrest : s.dropWhile (isDigitIn 10) = s := congrArg Prod.snd hs.digitRun
  rw [hrest]
  exact hdot

-- Digits of a group may begin with decimal ones, but a colon or the end follows them.
theorem read_hexDigits_append (n : Nat) (hs : EndsDigits 16 s) (hdot : s.head? ≠ some '.') :
    read (Nat.toDigits 16 n ++ s) = none := by
  apply read_eq_none
  have hrest : s.dropWhile (isDigitIn 10) = s := congrArg Prod.snd (hs.of_base (show 10 ≤ 16 by decide)).digitRun
  rw [List.dropWhile_append]
  split
  · rw [hrest]
    exact hdot
  · intro hhead
    rw [List.head?_append] at hhead
    cases hdigits : (Nat.toDigits 16 n).dropWhile (isDigitIn 10) with
    | nil => simp_all
    | cons c digits =>
      rw [hdigits] at hhead
      cases hhead
      have hmem : '.' ∈ Nat.toDigits 16 n := by
        apply (List.dropWhile_suffix (isDigitIn 10)).subset
        rw [hdigits]
        exact List.mem_cons_self
      exact absurd (isDigitIn_of_mem_toDigits (by decide) (by decide) n '.' hmem) (by decide)

theorem groups_ofGroups (high low : UInt16) : (ofGroups high low).groups = [high, low] := by
  have hword (w : UInt16) : (w / 256).toUInt8.toUInt16 * 256 + w.toUInt8.toUInt16 = w := by
    have hsize := UInt16.toNat_lt w
    apply UInt16.toNat_inj.mp
    simp only [UInt16.toNat_add, UInt16.toNat_mul, UInt8.toNat_toUInt16, UInt16.toNat_toUInt8,
      UInt16.toNat_div, UInt16.reduceToNat]
    omega
  exact congr (congrArg List.cons (hword high)) (congrArg (fun w => [w]) (hword low))

end IPv4

/-! ## 2. Groups of IPv6 -/

namespace IPv6

theorem readGroup_append (g : UInt16) (hs : EndsDigits 16 s) :
    readGroup (Nat.toDigits 16 g.toNat ++ s) = some (g, s) := by
  have hsize : g.toNat < 65536 := UInt16.toNat_lt g
  have hlength : (Nat.toDigits 16 g.toNat).length ≤ 4 :=
    (Nat.length_toDigits_le_iff (by decide) (by decide)).mpr (by omega)
  unfold readGroup
  rw [digitRun_toDigits_append (by decide) (by decide) g.toNat hs]
  dsimp only
  rw [valueOf_toDigits (by decide) (by decide), if_pos ⟨Nat.toDigits_ne_nil, hlength⟩,
    UInt16.ofNat_toNat]

theorem readGroup_eq_none (hs : EndsDigits 16 s) : readGroup s = none := by
  unfold readGroup
  rw [hs.digitRun]
  rfl

def colonGroups (groups : List UInt16) : List Char :=
  groups.flatMap fun g => ':' :: Nat.toDigits 16 g.toNat

theorem toList_joined_cons (g : UInt16) (groups : List UInt16) :
    (joined (g :: groups)).toList = Nat.toDigits 16 g.toNat ++ colonGroups groups := by
  induction groups generalizing g with
  | nil => simp [joined, hexDigits, colonGroups]
  | cons next groups ih =>
    have htail : (":".intercalate (hexDigits next.toNat ::
        groups.map fun g => hexDigits g.toNat)).toList =
        Nat.toDigits 16 next.toNat ++ colonGroups groups := ih next
    unfold joined
    rw [List.map_cons, List.map_cons, String.intercalate_cons_cons, String.toList_append, htail]
    simp [hexDigits, colonGroups]

/-- Where a series of groups ends: neither with a digit or a dot, nor with a colon and one of these. -/
structure EndsSeries (s : List Char) : Prop where
  digits : EndsDigits 16 s
  dot : s.head? ≠ some '.'
  colon : ∀ t, s = ':' :: t → EndsDigits 16 t ∧ t.head? ≠ some '.'

theorem endsSeries_cons {c : Char} (hdigit : isDigitIn 16 c = false) (hdot : c ≠ '.') (hcolon : c ≠ ':')
    (s : List Char) : EndsSeries (c :: s) where
  digits := endsDigits_cons hdigit s
  dot := fun h => hdot (Option.some.inj h)
  colon := fun _ h => absurd (List.cons.inj h).1 hcolon

theorem endsSeries_gap (s : List Char) : EndsSeries (':' :: ':' :: s) where
  digits := endsDigits_cons (by decide) _
  dot := by simp
  colon := by
    intro t ht
    cases ht
    exact ⟨endsDigits_cons (by decide) s, by simp⟩

theorem endsDigits_colonGroups (groups : List UInt16) (hs : EndsSeries s) :
    EndsDigits 16 (colonGroups groups ++ s) ∧ (colonGroups groups ++ s).head? ≠ some '.' := by
  cases groups with
  | nil => exact ⟨hs.digits, hs.dot⟩
  | cons g groups => exact ⟨endsDigits_cons (by decide) _, by simp [colonGroups]⟩

-- What a series could still go on with is an address of four bytes or one more group.
theorem reads_neither (hs : EndsDigits 16 s) (hdot : s.head? ≠ some '.') :
    IPv4.read s = none ∧ readGroup s = none :=
  ⟨IPv4.read_eq_none_of_endsDigits (hs.of_base (by decide)) hdot, readGroup_eq_none hs⟩

theorem readSeries_end (room : Nat) (isFirst : Bool) (hs : EndsSeries s) :
    readSeries room isFirst s = ⟨[], false, s⟩ := by
  cases room with
  | zero => rfl
  | succ room =>
    have hnone : (skipSeparator isFirst s).bind IPv4.read = none ∧
        (skipSeparator isFirst s).bind readGroup = none := by
      cases isFirst with
      | true => exact reads_neither hs.digits hs.dot
      | false =>
        cases s with
        | nil => exact ⟨rfl, rfl⟩
        | cons c t =>
          by_cases hcolon : c = ':'
          · subst hcolon
            obtain ⟨hdigits, hdot⟩ := hs.colon t rfl
            exact reads_neither hdigits hdot
          · have hskip : skipSeparator false (c :: t) = none := if_neg hcolon
            rw [hskip]
            exact ⟨rfl, rfl⟩
    unfold readSeries
    rw [hnone.1, hnone.2, ite_self]

theorem readSeries_group (room : Nat) {isFirst : Bool} {t : List Char} (g : UInt16)
    (hskip : skipSeparator isFirst t = some (Nat.toDigits 16 g.toNat ++ s))
    (hs : EndsDigits 16 s ∧ s.head? ≠ some '.') :
    readSeries (room + 1) isFirst t =
      { readSeries room false s with groups := g :: (readSeries room false s).groups } := by
  rw [readSeries, hskip, Option.bind_some, Option.bind_some, IPv4.read_hexDigits_append _ hs.1 hs.2,
    readGroup_append g hs.1, ite_self]

-- On the groups: each is read with the colon in front of it.
theorem readSeries_colonGroups (groups : List UInt16) {room : Nat} (hroom : groups.length ≤ room)
    (hs : EndsSeries s) :
    readSeries room false (colonGroups groups ++ s) = ⟨groups, false, s⟩ := by
  induction groups generalizing room with
  | nil => exact readSeries_end room false hs
  | cons g groups ih =>
    obtain ⟨room, rfl⟩ : ∃ n, room = n + 1 := ⟨room - 1, by simp at hroom; omega⟩
    have hskip : skipSeparator false (colonGroups (g :: groups) ++ s) =
        some (Nat.toDigits 16 g.toNat ++ (colonGroups groups ++ s)) := by
      simp [skipSeparator, colonGroups]
    rw [readSeries_group room g hskip (endsDigits_colonGroups groups hs),
      ih (Nat.le_of_succ_le_succ hroom)]

theorem readSeries_append (groups : List UInt16) {room : Nat} (hroom : groups.length ≤ room)
    (hs : EndsSeries s) :
    readSeries room true ((joined groups).toList ++ s) = ⟨groups, false, s⟩ := by
  cases groups with
  | nil => exact readSeries_end room true hs
  | cons g groups =>
    obtain ⟨room, rfl⟩ : ∃ n, room = n + 1 := ⟨room - 1, by simp at hroom; omega⟩
    rw [toList_joined_cons, List.append_assoc,
      readSeries_group room g rfl (endsDigits_colonGroups groups hs),
      readSeries_colonGroups groups (Nat.le_of_succ_le_succ hroom) hs]

/-! ## 3. IPv6 -/

theorem eq_of_groups {ip ip' : IPv6} (h : ip.groups = ip'.groups) : ip = ip' := by
  cases ip
  cases ip'
  cases h
  rfl

theorem read_of_series {ip : IPv6} {endsInIPv4 : Bool} {t : List Char}
    (hseries : readSeries 8 true s = ⟨ip.groups, endsInIPv4, t⟩) : read s = some (ip, t) := by
  unfold read
  dsimp only
  have hlength : (readSeries 8 true s).groups.length = 8 := by
    rw [hseries]
    exact ip.length_groups
  rw [dif_pos hlength]
  have hip : (⟨(readSeries 8 true s).groups, hlength⟩ : IPv6) = ip := by
    apply eq_of_groups
    show (readSeries 8 true s).groups = ip.groups
    rw [hseries]
  rw [hip, hseries]

theorem read_of_gap {ip : IPv6} {front back : List UInt16} {endsInIPv4 : Bool} {t rest : List Char}
    (hfront : readSeries 8 true s = ⟨front, false, ':' :: ':' :: t⟩) (hshort : front.length ≠ 8)
    (hback : readSeries (7 - front.length) true t = ⟨back, endsInIPv4, rest⟩)
    (hgroups : ip.groups = filled front back) : read s = some (ip, rest) := by
  unfold read
  dsimp only
  split
  · next hlength =>
    rw [hfront] at hlength
    exact absurd hlength hshort
  · split
    · next hends =>
      rw [hfront] at hends
      cases hends
    · split
      · next t' ht' =>
        rw [hfront] at ht'
        cases ht'
        have hback' : readSeries (7 - (readSeries 8 true s).groups.length) true t =
            ⟨back, endsInIPv4, rest⟩ := by
          rw [hfront]
          exact hback
        refine congrArg some (Prod.ext (eq_of_groups ?_) ?_)
        · show filled _ (readSeries _ true t).groups = ip.groups
          rw [hback', hfront, hgroups]
        · show (readSeries _ true t).rest = rest
          rw [hback']
      · next hgap =>
        rw [hfront] at hgap
        exact absurd rfl (hgap t)

-- The gap need not be the longest one, only a run of zeros.
theorem longestZeroRun_spec (groups : List UInt16) :
    longestZeroRun groups = (0, 0) ∨
      (longestZeroRun groups).2 = zeroRun groups (longestZeroRun groups).1 := by
  unfold longestZeroRun
  apply List.foldlRecOn (motive := fun best : Nat × Nat =>
    best = (0, 0) ∨ best.2 = zeroRun groups best.1)
  · exact .inl rfl
  · intro best hbest start _
    split
    · exact .inr rfl
    · exact hbest

theorem append_zeroRun (groups : List UInt16) (start : Nat) :
    groups.take start ++ (List.replicate (zeroRun groups start) 0 ++
      groups.drop (start + zeroRun groups start)) = groups := by
  have hzeros : (groups.drop start).takeWhile (· == 0) =
      List.replicate (zeroRun groups start) 0 := by
    apply List.eq_replicate_of_mem
    intro g hg
    exact eq_of_beq (List.all_eq_true.mp List.all_takeWhile g hg)
  have hbehind : (groups.drop start).dropWhile (· == 0) =
      groups.drop (start + zeroRun groups start) := by
    have hdrop : ((groups.drop start).takeWhile (· == 0) ++ (groups.drop start).dropWhile (· == 0)).drop
        (zeroRun groups start) = (groups.drop start).dropWhile (· == 0) := List.drop_left' rfl
    rw [List.takeWhile_append_dropWhile, List.drop_drop] at hdrop
    exact hdrop.symm
  rw [← hzeros, ← hbehind, List.takeWhile_append_dropWhile, List.take_append_drop]

theorem filled_zeroRun {groups : List UInt16} (hgroups : groups.length = 8) (start : Nat) :
    filled (groups.take start) (groups.drop (start + zeroRun groups start)) = groups := by
  have hall := append_zeroRun groups start
  have hlength := congrArg List.length hall
  rw [List.length_append, List.length_append, List.length_replicate, hgroups] at hlength
  have hgap : 8 - (groups.take start).length -
      (groups.drop (start + zeroRun groups start)).length = zeroRun groups start := by
    omega
  rw [filled, hgap, List.append_assoc, hall]

theorem render_of_mapped {ip : IPv6} {tail : IPv4} (h : ip.mappedIPv4? = some tail) :
    ip.render.toList = ':' :: ':' :: (Nat.toDigits 16 0xffff ++ ':' :: tail.render.toList) ∧
      ip.groups = filled [] (0xffff :: tail.groups) := by
  constructor
  · rw [render, h]
    show ("::ffff:" ++ tail.render).toList = _
    rw [String.toList_append]
    rfl
  · unfold mappedIPv4? at h
    split at h
    · next high low hgroups =>
      cases h
      rw [hgroups, IPv4.groups_ofGroups]
      rfl
    · cases h

theorem readSeries_mapped (tail : IPv4) (hs : EndsSeries s) :
    readSeries 7 true (Nat.toDigits 16 0xffff ++ ':' :: (tail.render.toList ++ s)) =
      ⟨0xffff :: tail.groups, true, s⟩ := by
  have hcolon : EndsDigits 16 (':' :: (tail.render.toList ++ s)) ∧
      (':' :: (tail.render.toList ++ s)).head? ≠ some '.' :=
    ⟨endsDigits_cons (by decide) _, by simp⟩
  have htail : readSeries 6 false (':' :: (tail.render.toList ++ s)) = ⟨tail.groups, true, s⟩ := by
    unfold readSeries
    rw [skipSeparator, if_neg Bool.false_ne_true, skipChar_cons, Option.bind_some,
      tail.read_append (hs.digits.of_base (by decide))]
    rfl
  rw [readSeries_group 6 0xffff rfl hcolon, htail]

theorem read_append (ip : IPv6) (hs : EndsSeries s) :
    read (ip.render.toList ++ s) = some (ip, s) := by
  have hnone (t : List Char) : readSeries 8 true (':' :: ':' :: t) = ⟨[], false, ':' :: ':' :: t⟩ :=
    readSeries_end 8 true (endsSeries_gap t)
  cases hmapped : ip.mappedIPv4? with
  | some tail =>
    obtain ⟨hrender, hgroups⟩ := render_of_mapped hmapped
    rw [hrender, List.cons_append, List.cons_append, List.append_assoc, List.cons_append]
    exact read_of_gap (hnone _) (by simp) (readSeries_mapped tail hs) hgroups
  | none =>
    have hrender : ip.render = compressed ip.groups := by
      rw [render, hmapped]
    rw [hrender, compressed]
    dsimp only
    have hlength := ip.length_groups
    split
    · next hlong =>
      obtain hempty | hrun := longestZeroRun_spec ip.groups
      · rw [hempty] at hlong
        exact absurd hlong (by decide)
      · have hgroups := (filled_zeroRun hlength (longestZeroRun ip.groups).1).symm
        have hlengths := congrArg List.length (append_zeroRun ip.groups (longestZeroRun ip.groups).1)
        rw [List.length_append, List.length_append, List.length_replicate, hlength] at hlengths
        rw [← hrun] at hgroups hlengths
        generalize ip.groups.take (longestZeroRun ip.groups).1 = front at hgroups hlengths ⊢
        generalize ip.groups.drop ((longestZeroRun ip.groups).1 + (longestZeroRun ip.groups).2) = back
          at hgroups hlengths ⊢
        have hfront (t : List Char) :
            readSeries 8 true ((joined front).toList ++ ':' :: ':' :: t) =
              ⟨front, false, ':' :: ':' :: t⟩ :=
          readSeries_append front (by omega) (endsSeries_gap t)
        have hback : readSeries (7 - front.length) true ((joined back).toList ++ s) =
            ⟨back, false, s⟩ := readSeries_append back (by omega) hs
        rw [String.toList_append, String.toList_append, List.append_assoc, List.append_assoc]
        exact read_of_gap (hfront _) (by omega) hback hgroups
    · have hseries := readSeries_append ip.groups (Nat.le_of_eq hlength) hs
      exact read_of_series hseries

end IPv6

/-! ## 4. Socket addresses -/

namespace SocketAddress

theorem readPort_append (port : UInt16) :
    readPort (':' :: (decimal port.toNat).toList) = some (port, []) := by
  have hnumber : readNumber 10 65535 (Nat.toDigits 10 port.toNat ++ []) = some (port.toNat, []) :=
    readNumber_toDigits_append (by decide) (by decide) (Nat.le_of_lt_succ (UInt16.toNat_lt port)) nofun
  rw [List.append_nil] at hnumber
  unfold readPort
  rw [skipChar_cons, decimal, String.toList_ofList]
  show ((readNumber 10 65535 (Nat.toDigits 10 port.toNat)).bind fun found =>
    some (UInt16.ofNat found.1, found.2)) = _
  rw [hnumber, Option.bind_some, UInt16.ofNat_toNat]

-- A scope that is not written reads as none at all, which stands for zero.
theorem readScope_append (scope : UInt32) (s : List Char) :
    (readScope ((renderScope scope).toList ++ ']' :: s)).getD
      (0, (renderScope scope).toList ++ ']' :: s) = (scope, ']' :: s) := by
  unfold renderScope
  split
  · next hzero =>
    rw [hzero]
    rfl
  · have hnumber : readNumber 10 4294967295 (Nat.toDigits 10 scope.toNat ++ ']' :: s) =
        some (scope.toNat, ']' :: s) :=
      readNumber_toDigits_append (by decide) (by decide) (Nat.le_of_lt_succ (UInt32.toNat_lt scope))
        (endsDigits_cons (by decide) s)
    have hread : readScope (("%" ++ decimal scope.toNat).toList ++ ']' :: s) =
        some (scope, ']' :: s) := by
      unfold readScope
      rw [String.toList_append, decimal, String.toList_ofList, String.toList_ofList]
      show ((readNumber 10 4294967295 (Nat.toDigits 10 scope.toNat ++ ']' :: s)).bind fun found =>
        some (UInt32.ofNat found.1, found.2)) = _
      rw [hnumber, Option.bind_some, UInt32.ofNat_toNat]
    rw [hread]
    rfl

theorem readV4_render (ip : IPv4) (port : UInt16) :
    readV4 (render (.v4 ip port)).toList = some (.v4 ip port, []) := by
  have htext : (render (.v4 ip port)).toList =
      ip.render.toList ++ ':' :: (decimal port.toNat).toList := by
    show (ip.render ++ ":" ++ decimal port.toNat).toList = _
    rw [String.toList_append, String.toList_append, List.append_assoc]
    rfl
  have hip : IPv4.read (ip.render.toList ++ ':' :: (decimal port.toNat).toList) =
      some (ip, ':' :: (decimal port.toNat).toList) :=
    ip.read_append (endsDigits_cons (by decide) _)
  unfold readV4
  rw [htext, hip]
  show ((readPort (':' :: (decimal port.toNat).toList)).bind fun found =>
    some (SocketAddress.v4 ip found.1, found.2)) = _
  rw [readPort_append, Option.bind_some]

theorem toList_render_v6 (ip : IPv6) (port : UInt16) (scope : UInt32) :
    (render (.v6 ip port scope)).toList = '[' :: (ip.render.toList ++
      ((renderScope scope).toList ++ ']' :: ':' :: (decimal port.toNat).toList)) := by
  show ("[" ++ ip.render ++ renderScope scope ++ "]:" ++ decimal port.toNat).toList = _
  simp only [String.toList_append, List.append_assoc]
  rfl

theorem readV6_render (ip : IPv6) (port : UInt16) (scope : UInt32) :
    readV6 (render (.v6 ip port scope)).toList = some (.v6 ip port scope, []) := by
  have hends : IPv6.EndsSeries ((renderScope scope).toList ++ ']' :: ':' ::
      (decimal port.toNat).toList) := by
    unfold renderScope
    split
    · exact IPv6.endsSeries_cons (by decide) (by decide) (by decide) _
    · rw [String.toList_append]
      exact IPv6.endsSeries_cons (by decide) (by decide) (by decide) _
  have hip := ip.read_append hends
  unfold readV6
  rw [toList_render_v6, skipChar_cons]
  show ((IPv6.read _).bind fun found => _) = _
  rw [hip, Option.bind_some]
  dsimp only
  rw [readScope_append]
  show ((skipChar ']' _).bind fun s => (readPort s).bind fun found =>
    some (SocketAddress.v6 ip found.1 scope, found.2)) = _
  rw [skipChar_cons, Option.bind_some, readPort_append, Option.bind_some]

theorem parse?_render (address : SocketAddress) : parse? address.render = some address := by
  unfold parse?
  cases address with
  | v4 ip port => rw [readV4_render, Option.some_or]
  | v6 ip port scope =>
    have hnone : readV4 (render (.v6 ip port scope)).toList = none := by
      rw [toList_render_v6, readV4,
        IPv4.read_eq_none_of_endsDigits (endsDigits_cons (by decide) _) (by simp)]
      rfl
    rw [hnone, Option.none_or, readV6_render]

end SocketAddress

end BufferKeeper.Address
