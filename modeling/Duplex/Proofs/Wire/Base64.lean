import Duplex.Wire.Base64

-- Reading back what was written as base64 gives the same bytes, and what reads as bytes is what
-- they are written as.

namespace Duplex.Text

-- Different texts have different bytes.
theorem charBytes_injective {cs ds : List Char} (h : charBytes cs = charBytes ds) : cs = ds := by
  have same : String.ofList cs = String.ofList ds := by
    rw [← String.toByteArray_inj, String.toByteArray_ofList, String.toByteArray_ofList]
    exact congrArg List.toByteArray h
  exact String.ofList_inj.mp same

end Duplex.Text

namespace Duplex.Base64

theorem value?_symbol {n : Nat} (h : n < 64) : value? (symbol n) = some n := by
  revert h
  revert n
  decide

theorem symbol_ne_paddingMark {n : Nat} (h : n < 64) : symbol n ≠ paddingMark := by
  revert h
  revert n
  decide

-- Symbols lie between the plus sign and the letter z.
theorem toNat_symbol {n : Nat} (h : n < 64) : 43 ≤ (symbol n).toNat ∧ (symbol n).toNat ≤ 122 := by
  revert h
  revert n
  decide

@[simp]
theorem valueAt_symbol {n : Nat} (h : n < 64) (offset : Nat) :
    valueAt (symbol n) offset = .ok n := by
  simp [valueAt, value?_symbol h]

-- Three bytes are cut into four times six bits and put together again.

theorem ofNat_first (a b : UInt8) :
    UInt8.ofNat (a.toNat / 4 * 4 + (a.toNat % 4 * 16 + b.toNat / 16) / 16) = a := by
  have := b.toNat_lt
  rw [show a.toNat / 4 * 4 + (a.toNat % 4 * 16 + b.toNat / 16) / 16 = a.toNat by omega]
  exact UInt8.ofNat_toNat

theorem ofNat_second (a b c : UInt8) :
    UInt8.ofNat ((a.toNat % 4 * 16 + b.toNat / 16) % 16 * 16 +
      (b.toNat % 16 * 4 + c.toNat / 64) / 4) = b := by
  have := b.toNat_lt
  have := c.toNat_lt
  rw [show (a.toNat % 4 * 16 + b.toNat / 16) % 16 * 16 +
    (b.toNat % 16 * 4 + c.toNat / 64) / 4 = b.toNat by omega]
  exact UInt8.ofNat_toNat

theorem ofNat_third (b c : UInt8) :
    UInt8.ofNat ((b.toNat % 16 * 4 + c.toNat / 64) % 4 * 64 + c.toNat % 64) = c := by
  have := c.toNat_lt
  rw [show (b.toNat % 16 * 4 + c.toNat / 64) % 4 * 64 + c.toNat % 64 = c.toNat by omega]
  exact UInt8.ofNat_toNat

theorem bits_lt (a b c : UInt8) :
    a.toNat / 4 < 64 ∧ a.toNat % 4 * 16 + b.toNat / 16 < 64 ∧
      b.toNat % 16 * 4 + c.toNat / 64 < 64 ∧ c.toNat % 64 < 64 := by
  have := a.toNat_lt
  have := b.toNat_lt
  have := c.toNat_lt
  omega

theorem length_encode (bytes : Bytes) : (encode bytes).length = (bytes.length + 2) / 3 * 4 := by
  fun_induction encode bytes with
  | case1 => rfl
  | case2 => simp
  | case3 => simp
  | case4 a b c rest ih => simp only [List.length_cons, ih]; omega

-- Whole groups of three bytes are written apart from what follows them.
theorem encode_append {front : Bytes} (h : front.length % 3 = 0) (back : Bytes) :
    encode (front ++ back) = encode front ++ encode back := by
  fun_induction encode front with
  | case1 => rfl
  | case2 a => simp at h
  | case3 a b => simp at h
  | case4 a b c rest ih =>
    have hr : rest.length % 3 = 0 := by simp only [List.length_cons] at h; omega
    simp [encode, ih hr]

theorem decodeGroups_encode {front : Bytes} (h : front.length % 3 = 0) (offset : Nat) :
    decodeGroups offset (encode front) = .ok front := by
  fun_induction encode front generalizing offset with
  | case1 => rfl
  | case2 a => simp at h
  | case3 a b => simp at h
  | case4 a b c rest ih =>
    have hr : rest.length % 3 = 0 := by simp only [List.length_cons] at h; omega
    have ⟨h₁, h₂, h₃, h₄⟩ := bits_lt a b c
    simp only [decodeGroups, valueAt_symbol h₁, valueAt_symbol h₂, valueAt_symbol h₃,
      valueAt_symbol h₄, ih hr, ofNat_first, ofNat_second, ofNat_third]

theorem readTail_padding {index : Nat} (h : 2 ≤ index) (offset : Nat) (pad : Option Nat) (k : Nat) :
    readTail offset index pad (List.replicate k paddingMark) = .ok ([], k) := by
  induction k generalizing index pad with
  | zero => rfl
  | succ k ih =>
    have hi : ¬index < 2 := by omega
    simp [List.replicate_succ, readTail, hi, ih (Nat.le_succ_of_le h)]

-- Symbols and then only padding, which must not begin before the third place.
theorem readTail_symbols (symbols : List Nat) (index : Nat) (bits : ∀ n ∈ symbols, n < 64)
    (h : 2 ≤ index + symbols.length) (offset k : Nat) :
    readTail offset index none (symbols.map symbol ++ List.replicate k paddingMark) =
      .ok (symbols, k) := by
  induction symbols generalizing index with
  | nil => exact readTail_padding h offset none k
  | cons n symbols ih =>
    have hn : n < 64 := bits n (by simp)
    have hr := ih (index + 1) (fun m hm => bits m (by simp [hm]))
      (by simp only [List.length_cons] at h; omega)
    simp [readTail, symbol_ne_paddingMark hn, valueAt_symbol hn, hr]

-- The last group holds one to three bytes, or nothing was written at all.
theorem decodeTail_encode {back : Bytes} (h : back.length ≤ 3) (offset : Nat) :
    decodeTail offset (encode back) = .ok back := by
  match back with
  | [] => rfl
  | [a] =>
    have ⟨h₁, h₂, _⟩ := bits_lt a 0 0
    have hr := readTail_symbols [a.toNat / 4, a.toNat % 4 * 16] 0
      (by simp_all) (by simp) offset 2
    have ha := ofNat_first a 0
    simp only [UInt8.toNat_zero, Nat.zero_div, Nat.add_zero] at ha
    change readTail offset 0 none (encode [a]) = _ at hr
    simp only [decodeTail, hr, List.length_cons, List.length_nil, Nat.reduceAdd, Nat.reduceLT,
      and_false, ↓reduceIte, Nat.reduceMod, ne_eq, not_true_eq_false, Nat.mul_mod_left, ha]
  | [a, b] =>
    have ⟨h₁, h₂, h₃, _⟩ := bits_lt a b 0
    have hr := readTail_symbols
      [a.toNat / 4, a.toNat % 4 * 16 + b.toNat / 16, b.toNat % 16 * 4] 0
      (by simp_all) (by simp) offset 1
    have hb := ofNat_second a b 0
    simp only [UInt8.toNat_zero, Nat.zero_div, Nat.add_zero] at hb
    change readTail offset 0 none (encode [a, b]) = _ at hr
    simp only [decodeTail, hr, List.length_cons, List.length_nil, Nat.reduceAdd, Nat.reduceLT,
      and_false, ↓reduceIte, Nat.reduceMod, ne_eq, not_true_eq_false, Nat.mul_mod_left, ofNat_first,
      hb]
  | [a, b, c] =>
    have ⟨h₁, h₂, h₃, h₄⟩ := bits_lt a b c
    have hr := readTail_symbols
      [a.toNat / 4, a.toNat % 4 * 16 + b.toNat / 16, b.toNat % 16 * 4 + c.toNat / 64,
        c.toNat % 64] 0
      (by simp_all) (by simp) offset 0
    change readTail offset 0 none (encode [a, b, c]) = _ at hr
    simp only [decodeTail, hr, List.length_cons, List.length_nil, Nat.reduceAdd, Nat.reduceLT,
      and_false, ↓reduceIte, Nat.reduceMod, ne_eq, not_true_eq_false, ofNat_first, ofNat_second,
      ofNat_third]

-- The last group of what is written is that of the last bytes.
theorem decode_encode (bytes : Bytes) : decode (encode bytes) = .ok bytes := by
  let start := (bytes.length - 1) / 3 * 3
  have hf : (bytes.take start).length % 3 = 0 := by rw [List.length_take]; omega
  have hb : (bytes.drop start).length ≤ 3 := by rw [List.length_drop]; omega
  have hl : tailStart (encode bytes).length = (encode (bytes.take start)).length := by
    rw [tailStart, length_encode, length_encode, List.length_take]
    omega
  have hs : strayByte? (encode bytes) = none := by
    rw [strayByte?, length_encode, if_neg (by omega)]
  have he : encode bytes = encode (bytes.take start) ++ encode (bytes.drop start) := by
    rw [← encode_append hf, List.take_append_drop]
  rw [decode, hs]
  dsimp only
  rw [hl, he, List.take_left, List.drop_left, decodeGroups_encode hf, decodeTail_encode hb]
  simp

theorem toNat_of_mem_encode {bytes : Bytes} {b : UInt8} (h : b ∈ encode bytes) :
    43 ≤ b.toNat ∧ b.toNat ≤ 122 := by
  fun_induction encode bytes with
  | case1 => simp at h
  | case2 a =>
    have ⟨h₁, h₂, _⟩ := bits_lt a 0 0
    simp only [List.mem_cons, List.not_mem_nil, or_false] at h
    rcases h with rfl | rfl | rfl | rfl
    · exact toNat_symbol h₁
    · exact toNat_symbol h₂
    · decide
    · decide
  | case3 a b =>
    have ⟨h₁, h₂, h₃, _⟩ := bits_lt a b 0
    simp only [List.mem_cons, List.not_mem_nil, or_false] at h
    rcases h with rfl | rfl | rfl | rfl
    · exact toNat_symbol h₁
    · exact toNat_symbol h₂
    · exact toNat_symbol h₃
    · decide
  | case4 a b c rest ih =>
    have ⟨h₁, h₂, h₃, h₄⟩ := bits_lt a b c
    simp only [List.mem_cons] at h
    rcases h with rfl | rfl | rfl | rfl | h
    · exact toNat_symbol h₁
    · exact toNat_symbol h₂
    · exact toNat_symbol h₃
    · exact toNat_symbol h₄
    · exact ih h

theorem utf8EncodeChar_ofNat {n : Nat} (h : n ≤ 122) :
    String.utf8EncodeChar (Char.ofNat n) = [UInt8.ofNat n] := by
  revert h
  revert n
  decide

theorem toNat_ofNat {n : Nat} (h : n ≤ 122) : (Char.ofNat n).toNat = n := by
  revert h
  revert n
  decide

theorem charBytes_encodeText (bytes : Bytes) : Text.charBytes (encodeText bytes) = encode bytes := by
  rw [Text.charBytes, encodeText, List.flatMap_map]
  have one : ∀ b ∈ encode bytes, String.utf8EncodeChar (Char.ofNat b.toNat) = [b] := fun b hb => by
    rw [utf8EncodeChar_ofNat (toNat_of_mem_encode hb).2, UInt8.ofNat_toNat]
  generalize encode bytes = cs at one
  induction cs with
  | nil => rfl
  | cons b cs ih =>
    simp only [List.mem_cons, forall_eq_or_imp] at one
    simp [one.1, ih one.2]

@[simp]
theorem decodeText_encodeText (bytes : Bytes) : decodeText (encodeText bytes) = .ok bytes := by
  rw [decodeText, charBytes_encodeText, decode_encode]

-- Base64 text holds no control character.
theorem le_of_mem_encodeText {bytes : Bytes} {c : Char} (h : c ∈ encodeText bytes) :
    43 ≤ c.toNat := by
  have ⟨b, hb, hc⟩ := List.mem_map.mp h
  have ⟨low, high⟩ := toNat_of_mem_encode hb
  rwa [← hc, toNat_ofNat high]

-- Four times six bits are put together to three bytes and cut again. The padding stands where the
-- bits end, and those that belong to no byte are zero.

theorem symbol_of_value? {b : UInt8} {n : Nat} (h : value? b = some n) : n < 64 ∧ symbol n = b := by
  have each : ∀ k : Fin 256, (value? (.ofNat k)).all fun n => n < 64 ∧ symbol n = .ofNat k := by
    decide +kernel
  have here := each ⟨b.toNat, b.toNat_lt⟩
  rw [UInt8.ofNat_toNat, h] at here
  simpa using here

theorem symbol_of_valueAt {b : UInt8} {offset n : Nat} (h : valueAt b offset = .ok n) :
    n < 64 ∧ symbol n = b := by
  simp only [valueAt] at h
  split at h
  · next m hm => exact Except.ok.inj h ▸ symbol_of_value? hm
  · simp at h

theorem toNat_ofNat_byte {n : Nat} (h : n < 256) : (UInt8.ofNat n).toNat = n := by
  rw [UInt8.toNat_ofNat']
  exact Nat.mod_eq_of_lt h

section

variable {w x y z : Nat}

theorem encode_group (hw : w < 64) (hx : x < 64) (hy : y < 64) (hz : z < 64) (rest : Bytes) :
    encode (.ofNat (w * 4 + x / 16) :: .ofNat (x % 16 * 16 + y / 4) :: .ofNat (y % 4 * 64 + z) ::
      rest) = symbol w :: symbol x :: symbol y :: symbol z :: encode rest := by
  rw [encode, toNat_ofNat_byte (by omega), toNat_ofNat_byte (by omega), toNat_ofNat_byte (by omega),
    show (w * 4 + x / 16) / 4 = w by omega,
    show (w * 4 + x / 16) % 4 * 16 + (x % 16 * 16 + y / 4) / 16 = x by omega,
    show (x % 16 * 16 + y / 4) % 16 * 4 + (y % 4 * 64 + z) / 64 = y by omega,
    show (y % 4 * 64 + z) % 64 = z by omega]

theorem encode_two (hw : w < 64) (hx : x < 64) (hy : y < 64) (zero : y % 4 = 0) :
    encode [.ofNat (w * 4 + x / 16), .ofNat (x % 16 * 16 + y / 4)] =
      [symbol w, symbol x, symbol y, paddingMark] := by
  rw [encode, toNat_ofNat_byte (by omega), toNat_ofNat_byte (by omega),
    show (w * 4 + x / 16) / 4 = w by omega,
    show (w * 4 + x / 16) % 4 * 16 + (x % 16 * 16 + y / 4) / 16 = x by omega,
    show (x % 16 * 16 + y / 4) % 16 * 4 = y by omega]

theorem encode_one (hw : w < 64) (hx : x < 64) (zero : x % 16 = 0) :
    encode [.ofNat (w * 4 + x / 16)] = [symbol w, symbol x, paddingMark, paddingMark] := by
  rw [encode, toNat_ofNat_byte (by omega), show (w * 4 + x / 16) / 4 = w by omega,
    show (w * 4 + x / 16) % 4 * 16 = x by omega]

end

theorem encode_of_decodeGroups {offset : Nat} {cs bytes : Bytes} (whole : cs.length % 4 = 0)
    (h : decodeGroups offset cs = .ok bytes) : encode bytes = cs ∧ bytes.length % 3 = 0 := by
  fun_induction decodeGroups offset cs generalizing bytes with
  | case1 offset a b c d rest w x y z hz hy hx hw front hf ih =>
    have ⟨lw, ew⟩ := symbol_of_valueAt hw
    have ⟨lx, ex⟩ := symbol_of_valueAt hx
    have ⟨ly, ey⟩ := symbol_of_valueAt hy
    have ⟨lz, ez⟩ := symbol_of_valueAt hz
    have ⟨written, thirds⟩ := ih (by simp only [List.length_cons] at whole; omega) hf
    rw [← Except.ok.inj h, encode_group lw lx ly lz, written, ew, ex, ey, ez]
    exact ⟨rfl, by simp only [List.length_cons]; omega⟩
  | case7 cs offset few =>
    have none_ : cs = [] := by
      match cs with
      | [] => rfl
      | [_] | [_, _] | [_, _, _] => simp at whole
      | a :: b :: c :: d :: rest => exact (few a b c d rest rfl).elim
    rw [← Except.ok.inj h, none_]
    exact ⟨rfl, rfl⟩
  | _ => simp at h

-- What stands at the end is symbols and then padding.
theorem eq_replicate_of_readTail {offset index : Nat} {first : Nat} {cs : Bytes}
    {symbols : List Nat} {pads : Nat}
    (h : readTail offset index (some first) cs = .ok (symbols, pads)) :
    symbols = [] ∧ cs = List.replicate pads paddingMark := by
  induction cs generalizing index symbols pads with
  | nil =>
    have ⟨eq, eq'⟩ : [] = symbols ∧ 0 = pads := by simpa [readTail] using h
    exact ⟨eq.symm, by rw [← eq']; rfl⟩
  | cons b cs ih =>
    simp only [readTail] at h
    split at h
    · next mark =>
      split at h
      · simp at h
      · split at h
        · next symbols' pads' rest =>
          have ⟨eq, eq'⟩ : symbols' = symbols ∧ pads' + 1 = pads := by simpa using h
          have ⟨none_, padding⟩ := ih rest
          rw [← eq, ← eq', mark, padding]
          exact ⟨none_, rfl⟩
        · simp at h
    · simp at h

theorem eq_append_of_readTail {offset index : Nat} {cs : Bytes} {symbols : List Nat} {pads : Nat}
    (h : readTail offset index none cs = .ok (symbols, pads)) :
    (∀ n ∈ symbols, n < 64) ∧ cs = symbols.map symbol ++ List.replicate pads paddingMark := by
  induction cs generalizing index symbols pads with
  | nil =>
    have ⟨eq, eq'⟩ : [] = symbols ∧ 0 = pads := by simpa [readTail] using h
    rw [← eq, ← eq']
    exact ⟨by simp, rfl⟩
  | cons b cs ih =>
    simp only [readTail] at h
    split at h
    · next mark =>
      split at h
      · simp at h
      · split at h
        · next symbols' pads' rest =>
          have ⟨eq, eq'⟩ : symbols' = symbols ∧ pads' + 1 = pads := by simpa using h
          have ⟨none_, padding⟩ := eq_replicate_of_readTail rest
          rw [← eq, ← eq', none_, mark, padding]
          exact ⟨by simp, rfl⟩
        · simp at h
    · split at h
      · simp at h
      · next n value =>
        have ⟨small, eq⟩ := symbol_of_valueAt value
        split at h
        · next symbols' pads' rest =>
          have ⟨eq', eq''⟩ : n :: symbols' = symbols ∧ pads' = pads := by simpa using h
          have ⟨bits, written⟩ := ih rest
          rw [← eq', ← eq'', written, ← eq]
          exact ⟨by simpa using ⟨small, bits⟩, rfl⟩
        · simp at h

theorem encode_of_decodeTail {offset : Nat} {tail bytes : Bytes} (short : tail.length ≤ 4)
    (h : decodeTail offset tail = .ok bytes) : encode bytes = tail := by
  simp only [decodeTail] at h
  split at h
  · simp at h
  next symbols pads read =>
  have ⟨bits, written⟩ := eq_append_of_readTail read
  have length : tail.length = symbols.length + pads := by simp [written]
  split at h
  · simp at h
  next enough =>
  split at h
  · simp at h
  next whole =>
  have whole : (symbols.length + pads) % 4 = 0 := by simpa using whole
  match symbols with
  | [] =>
    have none_ : tail = [] := Decidable.byContradiction fun ne => enough ⟨ne, by simp⟩
    rw [← Except.ok.inj h, none_]
    rfl
  | [w] =>
    simp only [List.length_cons, List.length_nil] at length whole enough
    have some_ : tail ≠ [] := List.ne_nil_of_length_pos (by omega)
    exact absurd ⟨some_, by omega⟩ enough
  | [w, x] =>
    simp only [List.length_cons, List.length_nil] at length whole
    have pads : pads = 2 := by omega
    simp only at h
    split at h
    · next zero =>
      rw [← Except.ok.inj h, encode_one (bits w (by simp)) (bits x (by simp)) zero, written, pads]
      rfl
    · simp at h
  | [w, x, y] =>
    simp only [List.length_cons, List.length_nil] at length whole
    have pads : pads = 1 := by omega
    simp only at h
    split at h
    · next zero =>
      rw [← Except.ok.inj h, written, pads,
        encode_two (bits w (by simp)) (bits x (by simp)) (bits y (by simp)) zero]
      rfl
    · simp at h
  | [w, x, y, z] =>
    simp only [List.length_cons, List.length_nil] at length whole
    have pads : pads = 0 := by omega
    rw [← Except.ok.inj h, encode_group (bits w (by simp)) (bits x (by simp)) (bits y (by simp))
      (bits z (by simp)), written, pads]
    rfl
  | _ :: _ :: _ :: _ :: _ :: _ => simp only [List.length_cons] at length; omega

-- What reads as bytes is what they are written as.
theorem encode_of_decode {cs bytes : Bytes} (h : decode cs = .ok bytes) : encode bytes = cs := by
  simp only [decode] at h
  split at h
  · simp at h
  split at h
  · simp at h
  next front groups =>
  split at h
  · simp at h
  next back tail =>
  have ⟨written, thirds⟩ := encode_of_decodeGroups
    (by rw [List.length_take, tailStart]; omega) groups
  have rest := encode_of_decodeTail (by rw [List.length_drop, tailStart]; omega) tail
  rw [← Except.ok.inj h, encode_append thirds, written, rest, List.take_append_drop]

theorem encodeText_of_decodeText {cs : List Char} {bytes : Bytes}
    (h : decodeText cs = .ok bytes) : encodeText bytes = cs :=
  Text.charBytes_injective (by rw [charBytes_encodeText, encode_of_decode h])

end Duplex.Base64
