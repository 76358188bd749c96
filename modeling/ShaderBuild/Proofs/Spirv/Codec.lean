import ShaderBuild.Spirv.Module

/-! # Modules as bytes

Words are stored and read back in either byte order. Bytes are a module exactly if they are whole words
and the first one is the magic number in one of the orders, which cannot be both. Storing the words of
a module again gives its bytes, in the order in which words are stored.
-/

namespace ShaderBuild.Spirv

variable {word : Nat} {words : List Nat} {bytes : List UInt8}

/-- The numbers that fit in a word stop here. -/
def wordLimit : Nat := 0x100000000

namespace ByteOrder

/-! ## Single words -/

theorem toNat_toUInt8 (n : Nat) : n.toUInt8.toNat = n % 256 := by simp

theorem bytes_word (order : ByteOrder) (a b c d : UInt8) :
    order.bytes (order.word a b c d) = [a, b, c, d] := by
  have first := a.toNat_lt
  have second := b.toNat_lt
  have third := c.toNat_lt
  have fourth := d.toNat_lt
  cases order <;>
    simp only [ByteOrder.bytes, ByteOrder.word, List.map_cons, List.map_nil, List.reverse_cons,
      List.reverse_nil, List.nil_append, List.cons_append, List.cons.injEq, and_true,
      ← UInt8.toNat_inj, toNat_toUInt8] <;>
    omega

theorem word_lt (order : ByteOrder) (a b c d : UInt8) : order.word a b c d < wordLimit := by
  have first := a.toNat_lt
  have second := b.toNat_lt
  have third := c.toNat_lt
  have fourth := d.toNat_lt
  cases order <;> simp only [ByteOrder.word, wordLimit] <;> omega

/-- A word has four bytes, and they tell it. -/
theorem exists_bytes_eq (order : ByteOrder) (fits : word < wordLimit) :
    ∃ a b c d, order.bytes word = [a, b, c, d] ∧ order.word a b c d = word := by
  unfold wordLimit at fits
  cases order with
  | little =>
      refine ⟨_, _, _, _, rfl, ?_⟩
      simp only [ByteOrder.word, toNat_toUInt8]
      omega
  | big =>
      refine ⟨_, _, _, _, rfl, ?_⟩
      simp only [ByteOrder.word, toNat_toUInt8]
      omega

/-! ## Sequences of words -/

theorem length_flatMap_bytes (order : ByteOrder) (words : List Nat) :
    (words.flatMap order.bytes).length = 4 * words.length := by
  induction words with
  | nil => rfl
  | cons word words ih =>
      have four : (order.bytes word).length = 4 := by cases order <;> rfl
      rw [List.flatMap_cons, List.length_append, ih, four, List.length_cons]
      omega

theorem words_flatMap_bytes (order : ByteOrder) (fit : ∀ word ∈ words, word < wordLimit) :
    order.words (words.flatMap order.bytes) = words := by
  induction words with
  | nil => rfl
  | cons word words ih =>
      obtain ⟨first, others⟩ := List.forall_mem_cons.mp fit
      obtain ⟨a, b, c, d, stored, same⟩ := order.exists_bytes_eq first
      rw [List.flatMap_cons, stored]
      show order.word a b c d :: order.words (words.flatMap order.bytes) = word :: words
      rw [same, ih others]

theorem words_lt (order : ByteOrder) (bytes : List UInt8) :
    ∀ word ∈ order.words bytes, word < wordLimit := by
  fun_induction order.words bytes with
  | case1 a b c d rest ih => exact List.forall_mem_cons.mpr ⟨order.word_lt a b c d, ih⟩
  | case2 => exact fun _ none => absurd none List.not_mem_nil

/-- Whole words are stored as they were. -/
theorem flatMap_bytes_words (order : ByteOrder) (whole : bytes.length % 4 = 0) :
    (order.words bytes).flatMap order.bytes = bytes := by
  fun_induction order.words bytes with
  | case1 a b c d rest ih =>
      have others : rest.length % 4 = 0 := by
        simp only [List.length_cons] at whole
        omega
      rw [List.flatMap_cons, bytes_word, ih others]
      rfl
  | case2 bytes short =>
      -- With four bytes or more there would be a word.
      match bytes with
      | [] => rfl
      | [_] | [_, _] | [_, _, _] => simp at whole
      | a :: b :: c :: d :: rest => exact absurd rfl (short a b c d rest)

/-- The first word is told by the first four bytes. -/
theorem head?_words_eq_iff (order : ByteOrder) (fits : word < wordLimit) :
    (order.words bytes).head? = some word ↔ bytes.take 4 = order.bytes word := by
  obtain ⟨p, q, r, s, stored, same⟩ := order.exists_bytes_eq fits
  rw [stored]
  match bytes with
  | [] | [_] | [_, _] | [_, _, _] => simp [ByteOrder.words]
  | a :: b :: c :: d :: rest =>
      constructor
      · intro found
        have first : order.word a b c d = word := Option.some.inj found
        rw [← first, bytes_word] at stored
        exact stored
      · intro found
        cases found
        exact congrArg some same

end ByteOrder

/-! ## Reading a module -/

/-- The first bytes of a module. -/
def magicBytes : ByteOrder → List UInt8
  | .little => [0x03, 0x02, 0x23, 0x07]
  | .big => [0x07, 0x23, 0x02, 0x03]

theorem bytes_magic (order : ByteOrder) : order.bytes magic = magicBytes order := by
  cases order <;> decide

/-- No module is in both orders. -/
theorem magicBytes_injective {order other : ByteOrder} (same : magicBytes order = magicBytes other) :
    order = other := by
  revert same
  cases order <;> cases other <;> decide

theorem head?_words_eq_magic (order : ByteOrder) :
    (order.words bytes).head? = some magic ↔ bytes.take 4 = magicBytes order := by
  rw [order.head?_words_eq_iff (by decide), bytes_magic]

theorem decode_eq_ok_iff :
    decode bytes = .ok words ↔ bytes.length % 4 = 0 ∧
      ∃ order, bytes.take 4 = magicBytes order ∧ words = ByteOrder.words order bytes := by
  unfold decode
  by_cases whole : bytes.length % 4 = 0
  case neg => simp [whole]
  by_cases void : bytes = []
  · subst void
    refine iff_of_false nofun ?_
    rintro ⟨_, order, started, _⟩
    cases order <;> cases started
  rw [if_neg (Decidable.not_not.mpr whole), if_neg (mt List.isEmpty_iff.mp void)]
  simp only [head?_words_eq_magic, whole, true_and]
  split
  · next little =>
      constructor
      · rintro ⟨⟩
        exact ⟨.little, little, rfl⟩
      · rintro ⟨order, started, rfl⟩
        cases magicBytes_injective (little.symm.trans started)
        rfl
  · next notLittle =>
      split
      · next big =>
          constructor
          · rintro ⟨⟩
            exact ⟨.big, big, rfl⟩
          · rintro ⟨order, started, rfl⟩
            cases magicBytes_injective (big.symm.trans started)
            rfl
      · next notBig =>
          refine iff_of_false nofun ?_
          rintro ⟨order, started, _⟩
          cases order with
          | little => exact notLittle started
          | big => exact notBig started

theorem decode_flatMap_bytes (order : ByteOrder) (fit : ∀ word ∈ words, word < wordLimit)
    (starts : words.head? = some magic) : decode (words.flatMap order.bytes) = .ok words := by
  have same := order.words_flatMap_bytes fit
  refine decode_eq_ok_iff.mpr ⟨?_, order, ?_, same.symm⟩
  · rw [order.length_flatMap_bytes words, Nat.mul_mod_right]
  · rw [← head?_words_eq_magic, same, starts]

/-! ## Storing words -/

theorem isWord_iff (n : Int) : isWord n = true ↔ 0 ≤ n ∧ n < 0x100000000 := by
  simp [isWord]

theorem encode?_eq_none_iff {numbers : List Int} :
    encode? numbers = none ↔ ∃ n ∈ numbers, ¬(0 ≤ n ∧ n < 0x100000000) := by
  simp only [← isWord_iff]
  simp [encode?]

theorem encode?_ofNat (fit : ∀ word ∈ words, word < wordLimit) :
    encode? (words.map Int.ofNat) = some (words.flatMap ByteOrder.little.bytes) := by
  have all : (words.map Int.ofNat).all isWord = true := by
    rw [List.all_eq_true]
    refine List.forall_mem_map.mpr fun word member => (isWord_iff _).mpr ⟨Int.natCast_nonneg word, ?_⟩
    exact Int.ofNat_lt.mpr (fit word member)
  rw [encode?, if_pos all, List.flatMap_map]
  rfl

/-- Bytes with each group of four in the opposite order. -/
def swapGroups : List UInt8 → List UInt8
  | a :: b :: c :: d :: rest => d :: c :: b :: a :: swapGroups rest
  | rest => rest

theorem little_flatMap_big_words (whole : bytes.length % 4 = 0) :
    (ByteOrder.big.words bytes).flatMap ByteOrder.little.bytes = swapGroups bytes := by
  have swap (word : Nat) : ByteOrder.little.bytes word = (ByteOrder.big.bytes word).reverse :=
    (List.reverse_reverse _).symm
  fun_induction swapGroups bytes with
  | case1 a b c d rest ih =>
      have others : rest.length % 4 = 0 := by
        simp only [List.length_cons] at whole
        omega
      have first := swap (ByteOrder.big.word a b c d)
      rw [ByteOrder.bytes_word] at first
      rw [ByteOrder.words, List.flatMap_cons, first, ih others]
      rfl
  | case2 bytes short =>
      match bytes with
      | [] => rfl
      | [_] | [_, _] | [_, _, _] => simp at whole
      | a :: b :: c :: d :: rest => exact absurd rfl (short a b c d rest)

/-- Words that start with the magic number are read back from how they are stored, and from their bytes
    in the other order too. Bytes are a module if and only if they are some whole words, of which the
    first is the magic number in one of the two orders; its words are stored as the bytes themselves,
    or as these with each group of four reversed. Storing fails if and only if some number does not fit
    in a word. -/
theorem decode_encode_both_orders :
    (∀ words : List Nat, (∀ word ∈ words, word < wordLimit) → words.head? = some magic →
      (∃ stored, encode? (words.map Int.ofNat) = some stored ∧ decode stored = .ok words) ∧
        decode (words.flatMap ByteOrder.big.bytes) = .ok words) ∧
    (∀ bytes : List UInt8,
      ((∃ words, decode bytes = .ok words) ↔ 0 < bytes.length ∧ 4 ∣ bytes.length ∧
        (bytes.take 4 = [0x03, 0x02, 0x23, 0x07] ∨ bytes.take 4 = [0x07, 0x23, 0x02, 0x03])) ∧
      ∀ words, decode bytes = .ok words →
        (bytes.take 4 = [0x03, 0x02, 0x23, 0x07] → encode? (words.map Int.ofNat) = some bytes) ∧
        (bytes.take 4 = [0x07, 0x23, 0x02, 0x03] →
          encode? (words.map Int.ofNat) = some (swapGroups bytes))) ∧
    ∀ numbers : List Int,
      encode? numbers = none ↔ ∃ n ∈ numbers, ¬(0 ≤ n ∧ n < 0x100000000) := by
  refine ⟨fun words fit starts => ⟨⟨_, encode?_ofNat fit, ?_⟩, ?_⟩, fun bytes => ⟨?_, ?_⟩,
    fun _ => encode?_eq_none_iff⟩
  · exact decode_flatMap_bytes .little fit starts
  · exact decode_flatMap_bytes .big fit starts
  · constructor
    · rintro ⟨words, read⟩
      obtain ⟨whole, order, started, -⟩ := decode_eq_ok_iff.mp read
      refine ⟨?_, Nat.dvd_of_mod_eq_zero whole, ?_⟩
      · rw [List.length_pos_iff]
        rintro rfl
        cases order <;> cases started
      · cases order with
        | little => exact .inl started
        | big => exact .inr started
    · rintro ⟨-, whole, little | big⟩
      · exact ⟨_, decode_eq_ok_iff.mpr ⟨Nat.mod_eq_zero_of_dvd whole, .little, little, rfl⟩⟩
      · exact ⟨_, decode_eq_ok_iff.mpr ⟨Nat.mod_eq_zero_of_dvd whole, .big, big, rfl⟩⟩
  · intro words read
    obtain ⟨whole, order, started, rfl⟩ := decode_eq_ok_iff.mp read
    rw [encode?_ofNat (order.words_lt bytes)]
    constructor
    · intro little
      obtain rfl : order = .little := magicBytes_injective (started.symm.trans little)
      rw [ByteOrder.flatMap_bytes_words _ whole]
    · intro big
      obtain rfl : order = .big := magicBytes_injective (started.symm.trans big)
      rw [little_flatMap_big_words whole]

/-- A module of two words, read from either order and stored with its lowest bytes first. -/
theorem pair_of_words_read_and_stored :
    ((∃ stored, encode? ([magic, 5].map Int.ofNat) = some stored ∧ decode stored = .ok [magic, 5]) ∧
      decode ([magic, 5].flatMap ByteOrder.big.bytes) = .ok [magic, 5]) ∧
    (∃ words, decode [0x07, 0x23, 0x02, 0x03, 0, 0, 0, 5] = .ok words) ∧
    encode? ([magic, 5].map Int.ofNat) = some [0x03, 0x02, 0x23, 0x07, 5, 0, 0, 0] := by
  obtain ⟨stored, bytes, -⟩ := decode_encode_both_orders
  obtain ⟨isModule, kept⟩ := bytes [0x07, 0x23, 0x02, 0x03, 0, 0, 0, 5]
  have both := stored [magic, 5] (by decide) rfl
  exact ⟨both, isModule.mpr ⟨by decide, by decide, .inr rfl⟩, (kept [magic, 5] both.2).2 rfl⟩

end ShaderBuild.Spirv
