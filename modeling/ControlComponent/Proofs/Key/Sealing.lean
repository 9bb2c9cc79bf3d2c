import ControlComponent.Key.Vault
import ControlComponent.Proofs.Outcome

/-!
The sealing that nodes use opens what it has sealed.

The key is as long as the cipher wants it, so all round keys are blocks, and what they make of a
block is a block. The key stream is thus as long as any text, and adding it twice gives the text
back. The tag is a block as well, so it stands where decryption looks for it.
-/

namespace ControlComponent

/-! ### Pieces -/

namespace Bytes

theorem pieces_nil (size : Nat) : pieces size [] = [] := rfl

/-- More pieces than there are bytes are never needed. -/
theorem piecesUpTo_eq {size : Nat} (positive : 0 < size) (count : Nat) (bytes : Bytes)
    (enough : bytes.length ≤ count) : piecesUpTo size count bytes = pieces size bytes := by
  suffices any : ∀ n, bytes.length ≤ n → piecesUpTo size count bytes = piecesUpTo size n bytes from
    any _ (Nat.le_refl _)
  intro n also
  induction count generalizing n bytes with
  | zero =>
    obtain rfl : bytes = [] := List.eq_nil_of_length_eq_zero (Nat.le_zero.1 enough)
    cases n <;> rfl
  | succ count ih =>
    cases bytes with
    | nil => cases n <;> rfl
    | cons b rest =>
      cases n with
      | zero => simp at also
      | succ n =>
        have left : ((b :: rest).drop size).length ≤ rest.length := by simp; omega
        simp only [piecesUpTo]
        rw [ih _ (Nat.le_trans left (by simpa using enough)) n
          (Nat.le_trans left (by simpa using also))]

theorem pieces_of_ne_nil {size : Nat} (positive : 0 < size) {bytes : Bytes} (some_ : bytes ≠ []) :
    pieces size bytes = bytes.take size :: pieces size (bytes.drop size) := by
  obtain ⟨b, rest, rfl⟩ := List.exists_cons_of_ne_nil some_
  rw [← piecesUpTo_eq positive rest.length ((b :: rest).drop size)
    (by simp; omega)]
  rfl

theorem pieces_of_length_le {size : Nat} {bytes : Bytes} (some_ : bytes ≠ [])
    (short : bytes.length ≤ size) : pieces size bytes = [bytes] := by
  have positive : 0 < size := Nat.lt_of_lt_of_le (List.length_pos_iff.2 some_) short
  rw [pieces_of_ne_nil positive some_, List.take_of_length_le short, List.drop_of_length_le short,
    pieces_nil]

theorem pieces_append {size : Nat} (positive : 0 < size) {piece : Bytes}
    (full : piece.length = size) (rest : Bytes) :
    pieces size (piece ++ rest) = piece :: pieces size rest := by
  have some_ : piece ++ rest ≠ [] := by
    intro none_
    rw [(List.append_eq_nil_iff.1 none_).1] at full
    simp at full
    omega
  rw [pieces_of_ne_nil positive some_, List.take_left' full, List.drop_left' full]

/-- The pieces of bytes that come out even all have the size that was asked for. -/
theorem pieces_even {size : Nat} (positive : 0 < size) (count : Nat) {bytes : Bytes}
    (even : bytes.length = count * size) :
    (pieces size bytes).length = count ∧ ∀ piece ∈ pieces size bytes, piece.length = size := by
  induction count generalizing bytes with
  | zero =>
    obtain rfl : bytes = [] := by simpa using even
    simp [pieces_nil]
  | succ count ih =>
    have split : bytes.length = size + count * size := by rw [even, Nat.succ_mul, Nat.add_comm]
    have some_ : bytes ≠ [] := by
      rintro rfl
      simp at split
      omega
    have left : (bytes.drop size).length = count * size := by simp [split]
    obtain ⟨counted, sized⟩ := ih left
    rw [pieces_of_ne_nil positive some_]
    refine ⟨by simp [counted], ?_⟩
    intro piece mem
    rcases List.mem_cons.1 mem with rfl | later
    · simp [split]
    · exact sized piece later

theorem flatten_pieces {size : Nat} (positive : 0 < size) (bytes : Bytes) :
    (pieces size bytes).flatten = bytes := by
  generalize counted : bytes.length = n
  induction n using Nat.strongRecOn generalizing bytes with
  | ind n ih =>
    by_cases some_ : bytes = []
    · subst some_
      rfl
    · have shorter : (bytes.drop size).length < n := by
        have := List.length_pos_iff.2 some_
        simp
        omega
      rw [pieces_of_ne_nil positive some_, List.flatten_cons, ih _ shorter _ rfl,
        List.take_append_drop]

@[simp] theorem length_xor (a b : Bytes) : (xor a b).length = min a.length b.length :=
  List.length_zipWith

theorem xor_xor {a b : Bytes} (covered : a.length ≤ b.length) : xor (xor a b) b = a := by
  induction a generalizing b with
  | nil => rfl
  | cons x a ih =>
    cases b with
    | nil => simp at covered
    | cons y b =>
      have head : x ^^^ y ^^^ y = x := by rw [UInt8.xor_assoc, UInt8.xor_self, UInt8.xor_zero]
      have tail := ih (b := b) (by simpa using covered)
      unfold xor at tail ⊢
      simp [head, tail]

end Bytes

/-! ### The key -/

namespace Hash.Blake2b

theorem size_compress (h : Array UInt64) (block : Bytes) (count : Nat) (last : Bool) :
    (compress h block count last).size = 8 := by
  unfold compress
  simp only [List.size_toArray, List.length_map, List.length_range]

theorem size_absorb (h : Array UInt64) (count : Nat) (blocks : List Bytes) :
    (absorb h count blocks).size = 8 := by
  fun_induction absorb h count blocks with
  | case1 => exact size_compress ..
  | case2 => exact size_compress ..
  | case3 _ _ _ _ _ ih => exact ih

theorem length_digest {size : Nat} (small : size ≤ 64) (message : Bytes) :
    (digest size message).length = size := by
  have words : ∀ state : List UInt64,
      (state.flatMap fun w => Bytes.ofNatLE 8 w.toNat).length = 8 * state.length := by
    intro state
    induction state with
    | nil => rfl
    | cons w rest ih => simp [ih]; omega
  simp [digest, words, size_absorb, small]

end Hash.Blake2b

theorem Derivation.Argon2i.length_derive {length : Nat} (small : length ≤ 64) (cost : Cost)
    (password salt : Bytes) : (derive cost length password salt).length = length := by
  simp only [derive, longDigest, if_pos small]
  exact Hash.Blake2b.length_digest small _

/-! ### Round keys -/

namespace Cipher.Aes

/-- Words of the key schedule: four bytes each. -/
def AreWords (words : List Bytes) : Prop := ∀ word ∈ words, word.length = 4

theorem length_turnWord (mark : UInt8) (word : Bytes) :
    (turnWord mark word).length = word.length := by
  unfold turnWord
  split <;> simp only [List.length_cons, List.length_nil]

/-- Words that are made one by one, each of the one before it and of an old word, are words. -/
theorem foldl_areWords {step : Bytes × List Bytes × Nat → Bytes → Bytes × List Bytes × Nat}
    (steps : ∀ before out i word, before.length = 4 → word.length = 4 →
      ∃ next, next.length = 4 ∧ step (before, out, i) word = (next, out ++ [next], i + 1))
    {words : List Bytes} (are : AreWords words) {before : Bytes} (last : before.length = 4)
    {out : List Bytes} (made : AreWords out) (i : Nat) :
    AreWords (words.foldl step (before, out, i)).2.1 ∧
      (words.foldl step (before, out, i)).2.1.length = out.length + words.length := by
  induction words generalizing before out i with
  | nil => exact ⟨made, rfl⟩
  | cons word rest ih =>
    obtain ⟨next, sized, stepped⟩ := steps before out i word last (are word (by simp))
    have more : AreWords (out ++ [next]) := by
      intro w mem
      rcases List.mem_append.1 mem with old | new
      · exact made w old
      · rw [List.mem_singleton.1 new, sized]
    obtain ⟨later, counted⟩ := ih (fun w mem => are w (by simp [mem])) sized more (i + 1)
    rw [List.foldl_cons, stepped]
    refine ⟨later, counted.trans ?_⟩
    simp
    omega

/-- The next words are words, and as many as there were. -/
theorem nextWords_areWords (mark : UInt8) {words : List Bytes} (are : AreWords words)
    (some_ : words ≠ []) :
    AreWords (nextWords mark words) ∧ (nextWords mark words).length = words.length := by
  have last : (words.getLastD []).length = 4 := by
    rw [List.getLastD_eq_getLast?, List.getLast?_eq_some_getLast some_]
    exact are _ (List.getLast_mem some_)
  unfold nextWords
  refine And.imp_right ?_ (foldl_areWords ?_ are last (by simp [AreWords]) 0)
  · intro counted
    simpa using counted
  · intro before out i word sized four
    have turned : (if i = 0 then turnWord mark before
        else if i = 4 then before.map substitute else before).length = 4 := by
      repeat' split
      all_goals simp [length_turnWord, sized]
    exact ⟨_, by simp [four, turned], rfl⟩

theorem wordsFrom_areWords {words : List Bytes} (are : AreWords words) (some_ : words ≠ [])
    (mark : UInt8) (count : Nat) :
    AreWords (wordsFrom words mark count) ∧
      (wordsFrom words mark count).length = (count + 1) * words.length := by
  induction count generalizing words mark with
  | zero => exact ⟨are, by simp [wordsFrom]⟩
  | succ count ih =>
    obtain ⟨next, counted⟩ := nextWords_areWords mark are some_
    obtain ⟨later, total⟩ := ih next
      (List.length_pos_iff.1 (counted ▸ List.length_pos_iff.2 some_)) (double mark)
    constructor
    · intro word mem
      rcases List.mem_append.1 mem with here | there
      · exact are word here
      · exact later word there
    · rw [wordsFrom, List.length_append, total, counted, Nat.succ_mul (count + 1), Nat.add_comm]

theorem length_flatten_words {words : List Bytes} (are : AreWords words) :
    words.flatten.length = words.length * 4 := by
  induction words with
  | nil => rfl
  | cons word rest ih =>
    rw [List.flatten_cons, List.length_append, are word (by simp),
      ih fun w mem => are w (by simp [mem])]
    simp
    omega

/-- Every round key of a key of 32 bytes is a block. -/
theorem length_of_mem_roundKeys {key : Bytes} (sized : key.length = 32) {k : Bytes}
    (mem : k ∈ roundKeys key) : k.length = 16 := by
  obtain ⟨counted, are⟩ := Bytes.pieces_even (by decide : 0 < 4) 8 sized
  obtain ⟨words, total⟩ := wordsFrom_areWords are
    (List.length_pos_iff.1 (by rw [counted]; decide)) 1 7
  have flat : (wordsFrom (Bytes.pieces 4 key) 1 7).flatten.length = 16 * 16 := by
    rw [length_flatten_words words, total, counted]
  exact (Bytes.pieces_even (by decide) 16 flat).2 k (List.mem_of_mem_take mem)

/-! ### Blocks -/

theorem length_mixColumns (block : Bytes) : (mixColumns block).length = block.length := by
  have column : ∀ c, (mixColumn c).length = c.length := by
    intro c
    unfold mixColumn
    split <;> rfl
  have whole : (Bytes.pieces 4 block).flatten.length = block.length := by
    rw [Bytes.flatten_pieces (by decide)]
  rw [← whole, mixColumns]
  simp [List.length_flatMap, List.length_flatten, column]

theorem length_rounds {keys : List Bytes} (blocks : ∀ k ∈ keys, k.length = 16) {block : Bytes}
    (sized : block.length = 16) : (rounds block keys).length = 16 := by
  fun_induction rounds block keys with
  | case1 => exact sized
  | case2 block last =>
    have : last.length = 16 := blocks last (by simp)
    simp [shiftRows, this]
  | case3 block key rest _ ih =>
    have : key.length = 16 := blocks key (by simp)
    exact ih (fun k mem => blocks k (by simp [mem])) (by
      simp [length_mixColumns, shiftRows, this])

/-- A block permuted is a block. -/
theorem length_permute {keys : List Bytes} (blocks : ∀ k ∈ keys, k.length = 16) {block : Bytes}
    (sized : block.length = 16) : (permute keys block).length = 16 := by
  unfold permute
  split
  · exact sized
  · rename_i first rest
    have : first.length = 16 := blocks first (by simp)
    exact length_rounds (fun k mem => blocks k (by simp [mem])) (by simp [sized, this])

end Cipher.Aes

/-! ### The key stream -/

namespace Cipher.Gcm

variable {keys : List Bytes} {nonce : Bytes}

theorem length_counterBlock (sized : nonce.length = nonceSize) (counter : Nat) :
    (counterBlock nonce counter).length = 16 := by
  simp [counterBlock, sized, nonceSize]

section Stream

variable (blocks : ∀ k ∈ keys, k.length = 16) (sized : nonce.length = nonceSize)

include blocks sized

/-- The key stream covers every text. -/
theorem length_stream (counter : Nat) (text : Bytes) :
    (stream keys nonce counter (Bytes.pieces 16 text)).length = text.length := by
  generalize counted : text.length = n
  induction n using Nat.strongRecOn generalizing text counter with
  | ind n ih =>
    by_cases some_ : text = []
    · subst some_
      exact counted
    · have positive := List.length_pos_iff.2 some_
      have key := Aes.length_permute blocks (length_counterBlock sized counter)
      rw [Bytes.pieces_of_ne_nil (by decide) some_, stream, List.length_append,
        ih _ (by simp; omega) (counter + 1) (text.drop 16) rfl]
      simp [key]
      omega

/-- Adding the key stream twice gives the text back. -/
theorem stream_stream (counter : Nat) (text : Bytes) :
    stream keys nonce counter
      (Bytes.pieces 16 (stream keys nonce counter (Bytes.pieces 16 text))) = text := by
  generalize counted : text.length = n
  induction n using Nat.strongRecOn generalizing text counter with
  | ind n ih =>
    have key := Aes.length_permute blocks (length_counterBlock sized counter)
    by_cases some_ : text = []
    · subst some_
      rfl
    have positive := List.length_pos_iff.2 some_
    by_cases short : text.length ≤ 16
    · have last : stream keys nonce counter (Bytes.pieces 16 text) =
          Bytes.xor text (Aes.permute keys (counterBlock nonce counter)) := by
        rw [Bytes.pieces_of_length_le some_ short, stream, stream, List.append_nil]
      have length_last := congrArg List.length last
      rw [length_stream blocks sized] at length_last
      rw [last, Bytes.pieces_of_length_le (List.length_pos_iff.1 (by omega)) (by omega), stream,
        stream, List.append_nil, Bytes.xor_xor (by omega)]
    · have full : (Bytes.xor (text.take 16)
          (Aes.permute keys (counterBlock nonce counter))).length = 16 := by
        simp [key]
        omega
      have covered : (text.take 16).length ≤
          (Aes.permute keys (counterBlock nonce counter)).length := by
        rw [key]
        exact List.length_take_le ..
      have shorter : (text.drop 16).length < n := by
        simp
        omega
      rw [Bytes.pieces_of_ne_nil (by decide) some_, stream, Bytes.pieces_append (by decide) full,
        stream, Bytes.xor_xor covered, ih _ shorter _ _ rfl, List.take_append_drop]

theorem length_tag (encrypted : Bytes) : (tag keys nonce encrypted).length = tagSize := by
  simp [tag, Aes.length_permute blocks (length_counterBlock sized 1), tagSize]

end Stream

/-- What was encrypted under a key and a nonce of the right lengths is found again. -/
theorem decrypt_encrypt {key : Bytes} (long : key.length = 32) (sized : nonce.length = nonceSize)
    (text : Bytes) : decrypt? key nonce (encrypt key nonce text) = some text := by
  have blocks := fun k mem => Aes.length_of_mem_roundKeys long (k := k) mem
  have tagged := length_tag blocks sized (addStream (Aes.roundKeys key) nonce text)
  simp only [decrypt?, encrypt, List.length_append, tagged, Nat.add_sub_cancel, List.take_left,
    List.drop_left, Nat.le_add_left, true_and, if_true]
  rw [addStream, addStream, stream_stream blocks sized]

theorem length_encrypt {key : Bytes} (long : key.length = 32) (sized : nonce.length = nonceSize)
    (text : Bytes) : (encrypt key nonce text).length = text.length + tagSize := by
  have blocks := fun k mem => Aes.length_of_mem_roundKeys long (k := k) mem
  rw [encrypt, List.length_append, length_tag blocks sized, addStream, length_stream blocks sized]

end Cipher.Gcm

namespace Key.Sealing

theorem length_deriveKey (password salt : Bytes) :
    (standard.deriveKey password salt).length = 32 := by
  simp only [standard]
  exact Derivation.Argon2i.length_derive (by decide) ⟨4096, 3⟩ password salt

/-- The sealing that nodes use is honest. -/
theorem honest_standard : standard.Honest where
  decrypt_encrypt password salt _ content _ sized :=
    Cipher.Gcm.decrypt_encrypt (length_deriveKey password salt) sized content
  length_encrypt password salt _ content _ sized :=
    Cipher.Gcm.length_encrypt (length_deriveKey password salt) sized content

end Key.Sealing
end ControlComponent
