import Mathlib.Data.List.Nodup
import Mathlib.Data.List.Perm.Subperm
import Mathlib.Data.Nat.Digits.Defs
import RouteRegistrar.Proofs.Files.Paths

/-!
# How many files there are

A path that is longer than the limit leads nowhere, so there are fewer files with different paths
than there are texts of that size. The bytes of a text, with a one behind them, are the digits of a
number that no other text has.
-/

namespace RouteRegistrar

/-! ## Numbers of texts -/

/-- The digits of a text: its bytes, and a one that marks their end. -/
private def textDigits (text : String) : List Nat :=
  text.toByteArray.data.toList.map UInt8.toNat ++ [1]

private theorem lt_of_mem_textDigits {text : String} {digit : Nat}
    (h : digit ∈ textDigits text) : digit < 256 := by
  rcases List.mem_append.mp h with hbyte | hend
  · obtain ⟨byte, -, rfl⟩ := List.mem_map.mp hbyte
    exact byte.toNat_lt
  · rw [List.mem_singleton.mp hend]
    decide

private theorem length_textDigits (text : String) :
    (textDigits text).length = text.utf8ByteSize + 1 := by
  rw [textDigits, List.length_append, List.length_map]
  rfl

/-- The number of a text. -/
private def textNumber (text : String) : Nat := Nat.ofDigits 256 (textDigits text)

private theorem digits_textNumber (text : String) :
    Nat.digits 256 (textNumber text) = textDigits text := by
  apply Nat.digits_ofDigits 256 (by decide)
  · exact fun digit h => lt_of_mem_textDigits h
  · intro h
    simp [textDigits]

private theorem textNumber_injective {text other : String}
    (h : textNumber text = textNumber other) : text = other := by
  have hdigits : textDigits text = textDigits other := by
    rw [← digits_textNumber, h, digits_textNumber]
  have hbytes := List.append_cancel_right hdigits
  have hinjective : Function.Injective UInt8.toNat := fun a b hab => UInt8.toNat_inj.mp hab
  have hlist := List.map_injective_iff.mpr hinjective hbytes
  apply String.toByteArray_inj.mp
  exact ByteArray.ext (Array.toList_inj.mp hlist)

/-- The one at the end makes every number positive. -/
private theorem textNumber_pos (text : String) : 0 < textNumber text := by
  rw [Nat.pos_iff_ne_zero]
  intro hzero
  have hdigits := digits_textNumber text
  rw [hzero, Nat.digits_zero] at hdigits
  simp [textDigits] at hdigits

private theorem textNumber_lt {text : String} {limit : Nat} (h : text.utf8ByteSize ≤ limit) :
    textNumber text < 256 ^ (limit + 1) :=
  calc textNumber text
    _ < 256 ^ (textDigits text).length :=
      Nat.ofDigits_lt_base_pow_length (by decide) fun digit h => lt_of_mem_textDigits h
    _ ≤ 256 ^ (limit + 1) := by
      rw [length_textDigits]
      exact Nat.pow_le_pow_right (by decide) (by omega)

/-- Different texts of bounded size are less than one could count in that size. -/
theorem length_lt_of_nodup {texts : List String} {limit : Nat} (hnodup : texts.Nodup)
    (hsize : ∀ text ∈ texts, text.utf8ByteSize ≤ limit) :
    texts.length < Nat.pow 256 (limit + 1) := by
  have hnumbers : (texts.map textNumber).Nodup :=
    List.Nodup.map (fun _ _ h => textNumber_injective h) hnodup
  -- No text has the number zero, which leaves one number over.
  have hsubset : texts.map textNumber ⊆ List.range' 1 (256 ^ (limit + 1) - 1) := by
    intro number hmem
    obtain ⟨text, htext, rfl⟩ := List.mem_map.mp hmem
    have hlt := textNumber_lt (hsize text htext)
    have hpos := textNumber_pos text
    rw [List.mem_range'_1]
    omega
  have hlength := (hnumbers.subperm hsubset).length_le
  rw [List.length_map, List.length_range'] at hlength
  have hpos : 0 < 256 ^ (limit + 1) := Nat.pow_pos (by decide)
  show texts.length < 256 ^ (limit + 1)
  omega

/-! ## Numbers of files -/

namespace FileStore

/-- The path of a file keeps the limit. -/
theorem utf8ByteSize_le_of_isFile {store : FileStore} {path : FilePath}
    (h : store.isFile path = true) : path.text.utf8ByteSize ≤ pathLimit := by
  obtain ⟨location, -, hlocate, -, -⟩ := locate_of_isFile h
  exact (walk_of_locate hlocate).2.1

/-- There are fewer files with different components than there are paths. -/
theorem length_lt_pathCount {store : FileStore} {files : List FilePath}
    (hfiles : ∀ file ∈ files, store.isFile file = true)
    (hnodup : (files.map (·.components)).Nodup) : files.length < pathCount := by
  -- Different components come from different texts.
  have htexts : (files.map (·.text)).Nodup := by
    have hsame : files.map (·.components) =
        (files.map (·.text)).map fun text => (FilePath.mk text).components := by
      rw [List.map_map]
      rfl
    rw [hsame] at hnodup
    exact hnodup.of_map
  -- The text of a path that leads to a file is short, and there are only so many short texts.
  have hsize : ∀ text ∈ files.map (·.text), text.utf8ByteSize ≤ pathLimit := by
    intro text hmem
    obtain ⟨file, hfile, rfl⟩ := List.mem_map.mp hmem
    exact utf8ByteSize_le_of_isFile (hfiles file hfile)
  have hlength := length_lt_of_nodup htexts hsize
  rw [List.length_map] at hlength
  unfold pathCount
  exact hlength

end FileStore

end RouteRegistrar
