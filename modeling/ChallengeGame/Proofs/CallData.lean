import ChallengeGame.Contract.Binding
import ChallengeGame.Proofs.Abi
import ChallengeGame.Proofs.Keccak
import Mathlib.Data.List.Nodup

/-!
# Call data

A word that a contract returns is read back as it is. Call data starts with the selector of its
method, and no two methods share one, so the contract can tell what it is asked and with which
arguments.
-/

namespace ChallengeGame

namespace Abi

theorem encode_word (word : Word) : Abi.encode [.word word] = word.toBytes := by
  simp [Abi.encode, Abi.heads, Abi.tails, Abi.Argument.head, Abi.Argument.tail]

theorem decode_word (word : Word) :
    Abi.decode [.word] (Abi.encode [.word word]) = .ok (word, ()) := by
  have filled : word.toBytes ≠ [] := List.ne_nil_of_length_pos (by simp)
  have whole : List.take 32 word.toBytes = word.toBytes := List.take_of_length_le (by simp)
  have first : Abi.value? word.toBytes 0 .word = some word := by
    have sliced : Abi.slice? word.toBytes 0 32 = some word.toBytes := by simp [Abi.slice?, whole]
    have told : (some word.toBytes).map Word.ofBytes = some word := by simp
    rw [Abi.value?, sliced]
    exact told
  have read : Abi.valuesFrom? word.toBytes 0 [.word] = some (word, ()) := by
    simp only [Abi.valuesFrom?]
    rw [first]
    rfl
  rw [encode_word, Abi.decode, read, List.isEmpty_eq_false_iff.2 filled]
  rfl

end Abi

namespace Contract

theorem length_selector (method : Method) : method.selector.length = 4 := by
  simp [Method.selector, FixedBytes.length_eq]

@[simp] theorem take_callData (method : Method) (arguments : List Abi.Argument) :
    (callData method arguments).take 4 = method.selector := by
  rw [callData, ← length_selector method, List.take_left]

theorem length_callData (method : Method) (arguments : List Abi.Argument) :
    (callData method arguments).length = 4 + (Abi.encode arguments).length := by
  rw [callData, List.length_append, length_selector]

theorem selector_eq (method : Method) :
    method.selector =
      (Keccak.bytesOfLane
        (Keccak.Rows.ofBlock (Keccak.pad (Bytes.ofAscii method.signature))).permute.first.a).take 4 := by
  have short : (Bytes.ofAscii method.signature).length < Keccak.rate := by
    cases method <;> decide
  rw [Method.selector, Keccak.hash_of_short short, List.flatMap_cons]
  exact List.take_append_of_le_length (by simp [Keccak.bytesOfLane])

-- no property of the hash tells the methods apart but its values
theorem selectors_nodup : (Method.all.map Method.selector).Nodup := by
  rw [funext selector_eq]
  decide +kernel

theorem Method.mem_all (method : Method) : method ∈ Method.all := by
  cases method <;> decide

@[simp] theorem selector_inj {method other : Method} :
    method.selector = other.selector ↔ method = other := by
  constructor
  · exact fun same => List.inj_on_of_nodup_map selectors_nodup method.mem_all other.mem_all same
  · rintro rfl; rfl

end Contract

end ChallengeGame
