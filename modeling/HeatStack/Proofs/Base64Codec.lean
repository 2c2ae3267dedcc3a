import HeatStack.Crypto.Base64
import HeatStack.Text.Blank
import Mathlib.Data.List.Basic
import Mathlib.Tactic.SplitIfs

/-! # The base64 codec

What `decode` accepts is exactly what `encode` writes: the padding has to be there and the bits
behind it have to be zero, so no two texts stand for the same octets.  Groups of four are taken one
by one, and the last group on its own (`Closes`), since only there padding is admitted.  The text of
the encoding is plain ASCII without a blank, and its UTF-8 octets are the bytes of the encoding. -/
set_option autoImplicit false
namespace HeatStack.Text

theorem toList_loop (bs : ByteArray) (i : Nat) (r : List UInt8) :
    ByteArray.toList.loop bs i r = r.reverse ++ bs.data.toList.drop i := by
  fun_induction ByteArray.toList.loop bs i r with
  | case1 i r before ih =>
      have here : i < bs.data.toList.length := by simpa using before
      have found : bs.get! i = bs.data.toList[i] := by
        rw [ByteArray.get!, getElem!_pos]
        rfl
      rw [ih, List.drop_eq_getElem_cons here, List.reverse_cons, List.append_assoc, found]
      rfl
  | case2 i r past =>
      rw [List.drop_eq_nil_of_le (by simpa using past), List.append_nil]

theorem toList_eq (bs : ByteArray) : bs.toList = bs.data.toList :=
  toList_loop bs 0 []

/-- The octets of a text in UTF-8. -/
theorem octets_ofList (cs : List Char) :
    (String.ofList cs).toUTF8.toList = cs.flatMap String.utf8EncodeChar := by
  rw [toList_eq, String.toUTF8_eq_toByteArray, String.toByteArray_ofList, List.utf8Encode,
    List.toList_data_toByteArray]

theorem octets_inj {s t : String} : s.toUTF8.toList = t.toUTF8.toList ↔ s = t := by
  constructor
  · intro same
    rw [toList_eq, toList_eq] at same
    exact String.toByteArray_inj.mp (ByteArray.ext (Array.toList_inj.mp same))
  · exact fun same => congrArg (fun s => s.toUTF8.toList) same

end HeatStack.Text

namespace HeatStack.Crypto.Base64

theorem value?_symbol : ∀ n < 64, value? (symbol n) = some n := by decide

theorem symbol_ne_pad : ∀ n < 64, symbol n ≠ pad := by decide

theorem toNat_symbol : ∀ n < 64, (symbol n).toNat =
    if n < 26 then n + 65 else if n < 52 then n + 71 else if n < 62 then n - 4
      else if n = 62 then 43 else 47 := by decide

theorem value?_eq_some {b : UInt8} {n : Nat} (found : value? b = some n) :
    n < 64 ∧ symbol n = b := by
  have bounded : n < 64 := by
    simp only [value?] at found
    split_ifs at found <;> cases found <;> omega
  refine ⟨bounded, ?_⟩
  rw [← UInt8.toNat_inj, toNat_symbol n bounded]
  simp only [value?] at found
  split_ifs at found <;> cases found <;> split_ifs <;> omega

theorem valueAt_eq_ok_iff (offset : Nat) (b : UInt8) (n : Nat) :
    valueAt offset b = .ok n ↔ n < 64 ∧ symbol n = b := by
  unfold valueAt
  constructor
  · intro read
    cases found : value? b with
    | none =>
        rw [found] at read
        cases read
    | some v =>
        rw [found] at read
        cases read
        exact value?_eq_some found
  · rintro ⟨small, rfl⟩
    rw [value?_symbol n small]

theorem bind_eq_ok {ε α β : Type} {x : Except ε α} {f : α → Except ε β} {b : β}
    (done : x >>= f = .ok b) : ∃ a, x = .ok a ∧ f a = .ok b := by
  cases x with
  | error e => cases done
  | ok a => exact ⟨a, rfl, done⟩

theorem group_symbols (offset : Nat) (x y z : UInt8) :
    group offset (symbol (x.toNat / 4)) (symbol (x.toNat % 4 * 16 + y.toNat / 16))
      (symbol (y.toNat % 16 * 4 + z.toNat / 64)) (symbol (z.toNat % 64)) = .ok [x, y, z] := by
  have hx := x.toNat_lt
  have hy := y.toNat_lt
  have hz := z.toNat_lt
  have first := (valueAt_eq_ok_iff offset _ _).mpr ⟨show x.toNat / 4 < 64 by omega, rfl⟩
  have second := (valueAt_eq_ok_iff (offset + 1) _ _).mpr
    ⟨show x.toNat % 4 * 16 + y.toNat / 16 < 64 by omega, rfl⟩
  have third := (valueAt_eq_ok_iff (offset + 2) _ _).mpr
    ⟨show y.toNat % 16 * 4 + z.toNat / 64 < 64 by omega, rfl⟩
  have fourth := (valueAt_eq_ok_iff (offset + 3) _ _).mpr ⟨show z.toNat % 64 < 64 by omega, rfl⟩
  unfold group
  rw [first, second, third, fourth]
  have one : UInt8.ofNat (x.toNat / 4 * 4 + (x.toNat % 4 * 16 + y.toNat / 16) / 16) = x := by
    rw [← UInt8.toNat_inj, UInt8.toNat_ofNat']
    omega
  have two : UInt8.ofNat ((x.toNat % 4 * 16 + y.toNat / 16) % 16 * 16 +
      (y.toNat % 16 * 4 + z.toNat / 64) / 4) = y := by
    rw [← UInt8.toNat_inj, UInt8.toNat_ofNat']
    omega
  have three : UInt8.ofNat ((y.toNat % 16 * 4 + z.toNat / 64) % 4 * 64 + z.toNat % 64) = z := by
    rw [← UInt8.toNat_inj, UInt8.toNat_ofNat']
    omega
  change Except.ok [_, _, _] = _
  rw [one, two, three]

theorem encode_octets {a b c d : Nat} (ha : a < 64) (hb : b < 64) (hc : c < 64) (hd : d < 64)
    (rest : List UInt8) : encode (UInt8.ofNat (a * 4 + b / 16) :: UInt8.ofNat (b % 16 * 16 + c / 4) ::
      UInt8.ofNat (c % 4 * 64 + d) :: rest) =
      symbol a :: symbol b :: symbol c :: symbol d :: encode rest := by
  simp only [encode, UInt8.toNat_ofNat']
  congr <;> omega

theorem group_eq_ok {offset : Nat} {a b c d : UInt8} {octets : List UInt8}
    (read : group offset a b c d = .ok octets) :
    ∃ x y z, octets = [x, y, z] ∧ ∀ rest, encode (x :: y :: z :: rest) = a :: b :: c :: d :: encode rest := by
  obtain ⟨va, ra, read⟩ := bind_eq_ok read
  obtain ⟨vb, rb, read⟩ := bind_eq_ok read
  obtain ⟨vc, rc, read⟩ := bind_eq_ok read
  obtain ⟨vd, rd, read⟩ := bind_eq_ok read
  cases read
  obtain ⟨ha, rfl⟩ := (valueAt_eq_ok_iff _ _ _).mp ra
  obtain ⟨hb, rfl⟩ := (valueAt_eq_ok_iff _ _ _).mp rb
  obtain ⟨hc, rfl⟩ := (valueAt_eq_ok_iff _ _ _).mp rc
  obtain ⟨hd, rfl⟩ := (valueAt_eq_ok_iff _ _ _).mp rd
  exact ⟨_, _, _, rfl, encode_octets ha hb hc hd⟩

theorem lastSymbols_symbols (offset pads : Nat) : ∀ (vs : List Nat) (place : Nat),
    (∀ v ∈ vs, v < 64) → (pads = 0 ∨ 2 ≤ place + vs.length) →
      lastSymbols offset place (vs.map symbol ++ List.replicate pads pad) = .ok (vs, pads) := by
  intro vs
  induction vs with
  | nil =>
      intro place _ late
      cases pads with
      | zero => rfl
      | succ pads =>
          have half : ¬ place < 2 := by
            simp only [List.length_nil] at late
            omega
          simp [List.replicate_succ, lastSymbols, half]
  | cons v vs ih =>
      intro place small late
      obtain ⟨here, others⟩ := List.forall_mem_cons.mp small
      have rest := ih (place + 1) others (by simp only [List.length_cons] at late; omega)
      have value := (valueAt_eq_ok_iff (offset + place) _ _).mpr ⟨here, rfl⟩
      rw [List.map_cons, List.cons_append, lastSymbols, if_neg (symbol_ne_pad v here), value]
      change (lastSymbols offset (place + 1) _ >>= _) = _
      rw [rest]
      rfl

theorem lastSymbols_eq_ok (offset : Nat) : ∀ (bytes : List UInt8) (place : Nat) {vs : List Nat}
    {pads : Nat}, lastSymbols offset place bytes = .ok (vs, pads) →
      bytes = vs.map symbol ++ List.replicate pads pad ∧ ∀ v ∈ vs, v < 64 := by
  intro bytes
  induction bytes with
  | nil =>
      intro place vs pads read
      cases read
      exact ⟨rfl, fun v member => nomatch member⟩
  | cons b rest ih =>
      intro place vs pads read
      unfold lastSymbols at read
      split_ifs at read with padding early filled
      · cases read
        have padded : rest = List.replicate rest.length pad :=
          List.eq_replicate_iff.mpr ⟨rfl, fun c member => by
            simpa using List.all_eq_true.mp filled c member⟩
        rw [padding, List.map_nil, List.nil_append, List.replicate_succ, ← padded]
        exact ⟨rfl, fun v member => nomatch member⟩
      · obtain ⟨v, value, read⟩ := bind_eq_ok read
        obtain ⟨⟨others, more⟩, behind, done⟩ := bind_eq_ok read
        cases done
        obtain ⟨small, rfl⟩ := (valueAt_eq_ok_iff _ _ _).mp value
        obtain ⟨spelled, bounded⟩ := ih (place + 1) behind
        rw [spelled]
        exact ⟨rfl, List.forall_mem_cons.mpr ⟨small, bounded⟩⟩

/-- The octets that the symbols of a last group stand for, which have `pads` padding bytes behind
them; the bits that the padding stands for are zero. -/
def Closes (pads : Nat) (octets : List UInt8) : List Nat → Prop
  | [] => pads = 0 ∧ octets = []
  | [_] => False
  | [a, b] => pads = 2 ∧ b % 16 = 0 ∧ octets = [UInt8.ofNat (a * 4 + b / 16)]
  | [a, b, c] => pads = 1 ∧ c % 4 = 0 ∧
      octets = [UInt8.ofNat (a * 4 + b / 16), UInt8.ofNat (b % 16 * 16 + c / 4)]
  | a :: b :: c :: d :: _ => octets =
      [UInt8.ofNat (a * 4 + b / 16), UInt8.ofNat (b % 16 * 16 + c / 4), UInt8.ofNat (c % 4 * 64 + d)]

theorem lastGroup_iff_closes {offset pads : Nat} {bytes : List UInt8} {vs : List Nat}
    (read : lastSymbols offset 0 bytes = .ok (vs, pads)) (octets : List UInt8) :
    lastGroup offset bytes = .ok octets ↔ Closes pads octets vs := by
  unfold lastGroup
  rw [read]
  match vs, read with
  | [], read =>
      have spelled := (lastSymbols_eq_ok offset bytes 0 read).1
      cases pads <;> simp_all [Closes, bind, Except.bind, pure, Except.pure, throw, throwThe,
        MonadExceptOf.throw, List.replicate_succ, eq_comm]
  | [a], _ => simp [Closes, bind, Except.bind, throw, throwThe, MonadExceptOf.throw]
  | [a, b], _ =>
      simp only [Closes, bind, Except.bind, pure, Except.pure, throw, throwThe, MonadExceptOf.throw]
      split_ifs <;> simp_all [eq_comm]
  | [a, b, c], _ =>
      simp only [Closes, bind, Except.bind, pure, Except.pure, throw, throwThe, MonadExceptOf.throw]
      split_ifs <;> simp_all [eq_comm]
  | a :: b :: c :: d :: _, _ => simp [Closes, bind, Except.bind, pure, Except.pure, eq_comm]

/-- The octets of a last group, which may be filled up with padding. -/
theorem lastGroup_encode (offset : Nat) (octets : List UInt8) (few : octets.length ≤ 3) :
    lastGroup offset (encode octets) = .ok octets := by
  match octets, few with
  | [], _ => rfl
  | [x], _ =>
      have hx := x.toNat_lt
      have read := lastSymbols_symbols offset 2 [x.toNat / 4, x.toNat % 4 * 16] 0
        (by simp; omega) (.inr (by simp))
      refine (lastGroup_iff_closes read _).mpr ⟨rfl, by omega, ?_⟩
      congr
      rw [← UInt8.toNat_inj, UInt8.toNat_ofNat']
      omega
  | [x, y], _ =>
      have hx := x.toNat_lt
      have hy := y.toNat_lt
      have read := lastSymbols_symbols offset 1
        [x.toNat / 4, x.toNat % 4 * 16 + y.toNat / 16, y.toNat % 16 * 4] 0
        (by simp; omega) (.inr (by simp))
      refine (lastGroup_iff_closes read _).mpr ⟨rfl, by omega, ?_⟩
      congr <;> rw [← UInt8.toNat_inj, UInt8.toNat_ofNat'] <;> omega
  | [x, y, z], _ =>
      have hx := x.toNat_lt
      have hy := y.toNat_lt
      have hz := z.toNat_lt
      have read := lastSymbols_symbols offset 0 [x.toNat / 4, x.toNat % 4 * 16 + y.toNat / 16,
        y.toNat % 16 * 4 + z.toNat / 64, z.toNat % 64] 0 (by simp; omega) (.inl rfl)
      refine (lastGroup_iff_closes read _).mpr ?_
      change [x, y, z] = [_, _, _]
      congr <;> rw [← UInt8.toNat_inj, UInt8.toNat_ofNat'] <;> omega

theorem lastGroup_eq_ok {offset : Nat} {bytes octets : List UInt8} (few : bytes.length ≤ 4)
    (read : lastGroup offset bytes = .ok octets) : encode octets = bytes := by
  obtain ⟨⟨vs, pads⟩, symbols, -⟩ := bind_eq_ok read
  have closes := (lastGroup_iff_closes symbols octets).mp read
  obtain ⟨rfl, small⟩ := lastSymbols_eq_ok offset bytes 0 symbols
  match vs, small, closes, few with
  | [], _, closes, _ =>
      obtain ⟨rfl, rfl⟩ := closes
      rfl
  | [a, b], small, closes, _ =>
      obtain ⟨rfl, clear, rfl⟩ := closes
      simp only [List.forall_mem_cons] at small
      have ha : (a * 4 + b / 16) % 256 / 4 = a := by omega
      have hb : (a * 4 + b / 16) % 256 % 4 * 16 = b := by omega
      simp only [encode, UInt8.toNat_ofNat', Nat.reducePow, ha, hb]
      rfl
  | [a, b, c], small, closes, _ =>
      obtain ⟨rfl, clear, rfl⟩ := closes
      simp only [List.forall_mem_cons] at small
      have ha : (a * 4 + b / 16) % 256 / 4 = a := by omega
      have hb : (a * 4 + b / 16) % 256 % 4 * 16 + (b % 16 * 16 + c / 4) % 256 / 16 = b := by omega
      have hc : (b % 16 * 16 + c / 4) % 256 % 16 * 4 = c := by omega
      simp only [encode, UInt8.toNat_ofNat', Nat.reducePow, ha, hb, hc]
      rfl
  | [a, b, c, d], small, closes, few =>
      obtain rfl : pads = 0 := by
        simp only [List.length_append, List.length_map, List.length_replicate, List.length_cons] at few
        omega
      cases closes
      simp only [List.forall_mem_cons] at small
      rw [encode_octets small.1 small.2.1 small.2.2.1 small.2.2.2.1]
      rfl
  | a :: b :: c :: d :: e :: more, small, closes, few =>
      simp only [List.length_append, List.length_map, List.length_cons] at few
      omega

theorem length_encode (octets : List UInt8) : (encode octets).length % 4 = 0 := by
  fun_induction encode octets with
  | case1 => rfl
  | case2 | case3 => simp only [List.length_cons, List.length_nil]
  | case4 x y z rest ih =>
      simp only [List.length_cons]
      omega

theorem groups_encode (octets : List UInt8) : ∀ offset, groups offset (encode octets) = .ok octets := by
  fun_induction encode octets with
  | case1 => exact fun offset => lastGroup_encode offset [] (by simp)
  | case2 x => exact fun offset => lastGroup_encode offset [x] (by simp)
  | case3 x y => exact fun offset => lastGroup_encode offset [x, y] (by simp)
  | case4 x y z rest ih =>
      intro offset
      cases behind : encode rest with
      | nil =>
          have none := ih 0
          rw [behind] at none
          cases none
          exact lastGroup_encode offset [x, y, z] (by simp)
      | cons e more =>
          rw [groups, group_symbols, ← behind]
          change (groups (offset + 4) (encode rest) >>= _) = _
          rw [ih]
          rfl

theorem groups_eq_ok (bytes : List UInt8) (offset : Nat) : ∀ {octets : List UInt8},
    groups offset bytes = .ok octets → encode octets = bytes := by
  fun_induction groups offset bytes with
  | case1 offset a b c d e rest ih =>
      intro octets read
      obtain ⟨front, first, read⟩ := bind_eq_ok read
      obtain ⟨back, others, done⟩ := bind_eq_ok read
      cases done
      obtain ⟨x, y, z, rfl, spelled⟩ := group_eq_ok first
      exact (spelled back).trans (by rw [ih others])
  | case2 offset bytes short =>
      intro octets read
      refine lastGroup_eq_ok ?_ read
      match bytes, short with
      | [], _ | [_], _ | [_, _], _ | [_, _, _], _ | [_, _, _, _], _ => simp
      | a :: b :: c :: d :: e :: rest, short => exact absurd rfl (short a b c d e rest)

/-- What is read is exactly what is written. -/
theorem decode_eq_ok_iff (bytes octets : List UInt8) : decode bytes = .ok octets ↔ bytes = encode octets := by
  constructor
  · intro read
    unfold decode at read
    simp only at read
    split_ifs at read
    exact (groups_eq_ok bytes 0 read).symm
  · rintro rfl
    unfold decode
    rw [if_neg (by rw [length_encode]; omega)]
    exact groups_encode octets 0

theorem mem_encode {octets : List UInt8} {b : UInt8} (member : b ∈ encode octets) :
    b = pad ∨ ∃ n < 64, b = symbol n := by
  revert member
  fun_induction encode octets with
  | case1 => exact fun member => nomatch member
  | case2 x =>
      have hx := x.toNat_lt
      simp only [List.mem_cons, List.not_mem_nil, or_false]
      rintro (rfl | rfl | rfl | rfl)
      · exact .inr ⟨_, by omega, rfl⟩
      · exact .inr ⟨_, by omega, rfl⟩
      · exact .inl rfl
      · exact .inl rfl
  | case3 x y =>
      have hx := x.toNat_lt
      have hy := y.toNat_lt
      simp only [List.mem_cons, List.not_mem_nil, or_false]
      rintro (rfl | rfl | rfl | rfl)
      · exact .inr ⟨_, by omega, rfl⟩
      · exact .inr ⟨_, by omega, rfl⟩
      · exact .inr ⟨_, by omega, rfl⟩
      · exact .inl rfl
  | case4 x y z rest ih =>
      have hx := x.toNat_lt
      have hy := y.toNat_lt
      have hz := z.toNat_lt
      simp only [List.mem_cons]
      rintro (rfl | rfl | rfl | rfl | later)
      · exact .inr ⟨_, by omega, rfl⟩
      · exact .inr ⟨_, by omega, rfl⟩
      · exact .inr ⟨_, by omega, rfl⟩
      · exact .inr ⟨_, by omega, rfl⟩
      · exact ih later

theorem plain_of_mem_encode {octets : List UInt8} {b : UInt8} (member : b ∈ encode octets) :
    String.utf8EncodeChar (Char.ofNat b.toNat) = [b] ∧ Text.isBlank (Char.ofNat b.toNat) = false := by
  have symbols : ∀ n < 64, String.utf8EncodeChar (Char.ofNat (symbol n).toNat) = [symbol n] ∧
      Text.isBlank (Char.ofNat (symbol n).toNat) = false := by decide
  rcases mem_encode member with rfl | ⟨n, small, rfl⟩
  · decide
  · exact symbols n small

theorem octets_encodeText (octets : List UInt8) : (encodeText octets).toUTF8.toList = encode octets := by
  rw [encodeText, Text.octets_ofList, List.flatMap_map]
  calc (encode octets).flatMap (fun b => String.utf8EncodeChar (Char.ofNat b.toNat))
      = (encode octets).flatMap (fun b => [b]) :=
        List.flatMap_congr fun b member => (plain_of_mem_encode member).1
    _ = encode octets := List.flatMap_singleton' _

theorem trim_encodeText (octets : List UInt8) : Text.trim (encodeText octets) = encodeText octets := by
  refine Text.trim_of_no_blank fun c member => ?_
  rw [encodeText, String.toList_ofList] at member
  obtain ⟨b, written, rfl⟩ := List.mem_map.mp member
  exact (plain_of_mem_encode written).2

/-- A text reads as octets exactly where it is their encoding. -/
theorem decode_text_iff (t : String) (octets : List UInt8) :
    decode t.toUTF8.toList = .ok octets ↔ t = encodeText octets := by
  rw [decode_eq_ok_iff, ← octets_encodeText, Text.octets_inj]

theorem encodeText_inj {a b : List UInt8} : encodeText a = encodeText b ↔ a = b := by
  constructor
  · intro same
    have read := (decode_text_iff (encodeText b) a).mpr same.symm
    rw [(decode_text_iff (encodeText b) b).mpr rfl] at read
    exact (Except.ok.inj read).symm
  · exact congrArg encodeText

end HeatStack.Crypto.Base64
