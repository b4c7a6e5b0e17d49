import Mathlib.Order.Defs.LinearOrder
import Mathlib.Order.Nat
import StorageEngine.Disk.BlockFile

/-!
# The pages of a file

A file of blocks shows a list of pages, one for each block.  Reading a block yields its page, and
writing one replaces its page and no other; a new block adds a page of zeros at the end, whatever a
write that failed may have left there.
-/

namespace StorageEngine.Disk.BlockFile

/-- The page of a block. -/
def page (file : Bytes) (n : Nat) : Page :=
  .ofBytes (file.slice (offset n) Page.size)

/-- The pages of the blocks of a file, in order. -/
def pages (file : Bytes) : List Page :=
  (List.range (count file)).map (page file)

variable {file : Bytes} {n m : Nat} {p : Page}

@[simp]
theorem length_pages (file : Bytes) :
  (pages file).length = count file
  := by
  rw [pages, List.length_map, List.length_range]

theorem getElem?_pages (file : Bytes) (n : Nat) :
  (pages file)[n]? = if n < count file then some (page file n) else none
  := by
  rw [pages, List.getElem?_map]
  split
  · next h => rw [List.getElem?_range h, Option.map_some]
  · next h => rw [List.getElem?_eq_none (by simpa using h), Option.map_none]

@[simp]
theorem pages_nil :
  pages [] = []
  := rfl

theorem size_pos :
  0 < Page.size
  := by decide

theorem offset_le_length (h : n ≤ count file) :
  offset n ≤ file.length
  := Nat.mul_le_of_le_div _ _ _ h

/-- A block ends before all that come after it. -/
theorem offset_add_size_le_offset (h : m < n) :
  offset m + Page.size ≤ offset n
  := by
  rw [offset, ← Nat.succ_mul]
  apply Nat.mul_le_mul_right _ h

/-- The places of two blocks do not overlap. -/
theorem offset_apart (h : m ≠ n) :
  offset m + Page.size ≤ offset n ∨ offset n + Page.size ≤ offset m
  := (Nat.lt_or_gt_of_ne h).imp offset_add_size_le_offset offset_add_size_le_offset

/-- A block that the file has lies inside of it. -/
theorem offset_add_size_le (h : n < count file) :
  offset n + Page.size ≤ file.length
  := (offset_add_size_le_offset h).trans (offset_le_length (Nat.le_refl _))

/-- A page that is written is the one that reads back, and the others stay. -/
theorem page_overwrite (h : n ≤ count file) (p : Page) (m : Nat) :
  page (file.overwrite (offset n) p.bytes) m = if m = n then p else page file m
  := by
  have hoffset := offset_le_length h
  rw [page]
  split
  · next heq =>
    have hslice := Bytes.slice_overwrite p.bytes hoffset
    rw [p.length_bytes] at hslice
    rw [heq, hslice, Page.ofBytes_bytes]
  · next hne =>
    rw [Bytes.slice_overwrite_of_outside p.bytes hoffset, ← page]
    rw [p.length_bytes]
    apply offset_apart hne

/-- A write to a block that the file has does not change its length. -/
theorem length_overwrite_of_lt (h : n < count file) (p : Page) :
  (file.overwrite (offset n) p.bytes).length = file.length
  := by
  rw [Bytes.length_overwrite (offset_le_length h.le), p.length_bytes]
  apply Nat.max_eq_left (offset_add_size_le h)

/-- A page that is written at the end of the last block is the end of the file. -/
theorem length_overwrite_count (file : Bytes) (p : Page) :
  (file.overwrite (offset (count file)) p.bytes).length = offset (count file) + Page.size
  := by
  rw [Bytes.length_overwrite (offset_le_length (Nat.le_refl _)), p.length_bytes]
  apply Nat.max_eq_right
  apply (Nat.lt_div_mul_add size_pos).le

/-- A write replaces the page of its block. -/
theorem pages_overwrite_of_lt (h : n < count file) (p : Page) :
  pages (file.overwrite (offset n) p.bytes) = (pages file).set n p
  := by
  have hcount : count (file.overwrite (offset n) p.bytes) = count file := by
    rw [count, length_overwrite_of_lt h, ← count]
  apply List.ext_getElem?
  intro m
  rw [getElem?_pages, hcount, page_overwrite h.le, List.getElem?_set, getElem?_pages, length_pages,
    if_pos h]
  by_cases hm : m = n
  · subst hm
    rw [if_pos h, if_pos rfl, if_pos rfl]
  · rw [if_neg hm, if_neg (Ne.symm hm)]

/-- A page that is written at the end of the last block is added to the others. -/
theorem pages_overwrite_count (file : Bytes) (p : Page) :
  pages (file.overwrite (offset (count file)) p.bytes) = pages file ++ [p]
  := by
  have hcount : count (file.overwrite (offset (count file)) p.bytes) = count file + 1 := by
    rw [count, length_overwrite_count, offset, Nat.add_div_right _ size_pos,
      Nat.mul_div_cancel _ size_pos]
  apply List.ext_getElem?
  intro m
  rw [getElem?_pages, hcount, page_overwrite (Nat.le_refl _)]
  obtain hlt | rfl | hgt := Nat.lt_trichotomy m (count file)
  · rw [if_pos (Nat.lt_succ_of_lt hlt), if_neg hlt.ne, List.getElem?_append_left (by simpa using hlt),
      getElem?_pages, if_pos hlt]
  · rw [if_pos (Nat.lt_succ_self _), if_pos rfl, ← length_pages, List.getElem?_concat_length]
  · rw [if_neg (by omega), List.getElem?_eq_none]
    rw [List.length_append, length_pages, List.length_singleton]
    omega

/-! ### Places -/

/-- The place of a block is where its page is. -/
theorem read_place? (file : Bytes) (n : UInt64) :
  (place? file n).map (fun place => place.read file) = (pages file)[n.toNat]?
  := by
  rw [place?, getElem?_pages]
  split <;> rfl

namespace Place

variable {place : Place}

/-- A page that lies within the limit is stored. -/
theorem write_of_le {limit : Option Nat} (h : ∀ bound ∈ limit, place.offset + Page.size ≤ bound)
    (file : Bytes) (p : Page) :
  place.write file p limit = (.ok (), file.overwrite place.offset p.bytes)
  := by
  rw [write]
  cases limit with
  | none => rfl
  | some bound => rw [fateUnder, if_pos (h bound rfl), Disk.write]

/-- Any part of a page that is not all of it is what a write stores, under some limit. -/
theorem write_of_lt {kept : Nat} (h : kept < Page.size) (place : Place) (file : Bytes) (p : Page) :
  place.write file p (some (place.offset + kept))
    = (.error (.disk none), file.overwrite place.offset (p.bytes.take kept))
  := by
  rw [write, fateUnder, if_neg (by omega), Nat.add_sub_cancel_left, Disk.write]

end Place

end StorageEngine.Disk.BlockFile
