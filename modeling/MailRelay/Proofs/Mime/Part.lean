import MailRelay.Mime.Part
import Mathlib.Algebra.BigOperators.Group.List.Basic
import Mathlib.Algebra.GroupWithZero.Nat
import Mathlib.Data.List.Forall2
import Mathlib.Data.List.TakeWhile

set_option autoImplicit false

namespace MailRelay

theorem colon_of_latin1 {bytes : Bytes} (member : ':' ∈ latin1 bytes) : (58 : UInt8) ∈ bytes := by
  obtain ⟨b, present, same⟩ := List.mem_map.1 member
  have valid : b.toNat.isValidChar := .inl (Nat.lt_trans b.toNat_lt (by decide))
  have number : b.toNat = ':'.toNat := by
    rw [← same, Char.ofNat, dif_pos valid]
    rfl
  have colon : b = 58 := UInt8.toNat_inj.1 number
  exact colon ▸ present

namespace HeaderField

theorem name_read (bytes : Bytes) :
    (read bytes).1.name = bytes.takeWhile fun b => b != 58 && b != 10 := by
  unfold read
  dsimp only
  split <;> rfl

theorem colon_not_mem_read (bytes : Bytes) : ':' ∉ (read bytes).1.nameText.toList := by
  rw [nameText, name_read, String.toList_ofList]
  intro member
  have passed := List.mem_takeWhile_imp (colon_of_latin1 member)
  revert passed
  decide

end HeaderField

theorem Header.colon_not_mem_readAfter {before header : Header} {bytes content : Bytes}
    (done : readAfter before bytes = .ok (header, content))
    (clear : ∀ f ∈ before, ':' ∉ f.nameText.toList) : ∀ f ∈ header, ':' ∉ f.nameText.toList := by
  fun_induction readAfter before bytes with
  | case1 | case2 | case3 =>
    cases done
    simpa using clear
  | case4 | case5 => cases done
  | case6 before b rest _ _ _ _ next ih =>
    exact ih done (List.forall_mem_cons.2 ⟨HeaderField.colon_not_mem_read (b :: rest), clear⟩)

theorem mapM_ok {ε α β : Type} {f : α → Except ε β} {xs : List α} {ys : List β}
    (done : xs.mapM f = .ok ys) : List.Forall₂ (fun x y => f x = .ok y) xs ys := by
  induction xs generalizing ys with
  | nil =>
    cases done
    exact .nil
  | cons x xs ih =>
    rw [List.mapM_cons] at done
    cases first : f x with
    | error e =>
      rw [first] at done
      cases done
    | ok y =>
      cases rest : xs.mapM f with
      | error e =>
        rw [first, rest] at done
        cases done
      | ok zs =>
        rw [first, rest] at done
        cases done
        exact .cons first (ih rest)

namespace Part

variable {inDigest : Bool} {bytes : Bytes} {header : Header} {part : Part}

theorem read_ok [ForeignDecoders] (done : read inDigest bytes = .ok (header, part)) :
    ∃ content, Header.read bytes = .ok (header, content) ∧
      let mediaType := MediaType.ofHeader header inDigest
      (part = .leaf (Leaf.ofHeader header mediaType content) ∨
        ∃ parts, part = .divided parts ∧
          List.Forall₂ (fun slice part => ∃ header,
            read (mediaType.name == "multipart/digest") slice = .ok (header, part))
            (divide mediaType content) parts) := by
  rw [read] at done
  split at done
  · cases done
  next content found =>
  dsimp only at done
  split at done
  · cases done
    exact ⟨content, found, .inl rfl⟩
  generalize all : (List.mapM _ _ : Except MailError (List Part)) = result at done
  cases result with
  | error e => cases done
  | ok parts =>
    cases done
    refine ⟨content, found, .inr ⟨parts, rfl, ?_⟩⟩
    rw [← List.attach_map_subtype_val (divide _ content), List.forall₂_map_left_iff]
    refine (mapM_ok all).imp fun slice part made => ?_
    generalize read _ slice.1 = inner at made ⊢
    cases inner with
    | error e => cases made
    | ok mail =>
      cases made
      exact ⟨mail.1, rfl⟩

theorem colon_not_mem [ForeignDecoders] (done : read inDigest bytes = .ok (header, part)) :
    ∀ f ∈ header, ':' ∉ f.nameText.toList := by
  obtain ⟨content, found, -⟩ := read_ok done
  exact Header.colon_not_mem_readAfter found (List.forall_mem_nil _)

mutual

def leaves : Part → List Leaf
  | .leaf l => [l]
  | .divided parts => leavesOfAll parts

def leavesOfAll : List Part → List Leaf
  | [] => []
  | part :: rest => leaves part ++ leavesOfAll rest

end

theorem seek?_parts {key before bytes left right : Bytes} {atStart : Bool}
    (found : seek? key atStart before bytes = some (left, right)) :
    left.length + right.length ≤ before.length + bytes.length := by
  induction bytes generalizing atStart before with
  | nil => simp [seek?] at found
  | cons b rest ih =>
    rw [seek?] at found
    split at found
    · cases found
      simp only [List.length_reverse, List.length_drop, List.length_cons]
      omega
    · have later := ih found
      simp only [List.length_cons] at later ⊢
      omega

def total (slices : List Bytes) : Nat := (slices.map List.length).sum

theorem total_slices (key bytes : Bytes) : total (slices key bytes) ≤ bytes.length := by
  have skipped (first : UInt8) (body rest : Bytes) (eq : rest.dropWhile (· != 10) = first :: body) :
      body.length < rest.length := by
    have short := (List.dropWhile_sublist (· != 10) (l := rest)).length_le
    rw [eq] at short
    exact short
  fun_induction slices key bytes with
  | case1 => exact Nat.zero_le _
  | case2 bytes first body eq =>
    have := skipped first body bytes eq
    simp only [total, List.map_cons, List.map_nil, List.sum_cons, List.sum_nil]
    omega
  | case3 bytes first body eq before after found ih =>
    have := skipped first body bytes eq
    have parts := seek?_parts found
    have trimmed := withoutLineEnd_length before
    have later : total (if isLast after then [] else slices key after) ≤ after.length := by
      split
      · exact Nat.zero_le _
      · exact ih
    simp only [total, List.map_cons, List.sum_cons, List.length_nil] at later parts ⊢
    omega

theorem total_divide (mediaType : MediaType) (content : Bytes) :
    total (divide mediaType content) ≤ content.length := by
  unfold divide
  split
  · exact Nat.zero_le _
  dsimp only
  split
  · exact Nat.zero_le _
  next found =>
  exact (total_slices _ _).trans (seek?_length found).2

def contentLength (leaves : List Leaf) : Nat := (leaves.map (·.content.length)).sum

theorem contentLength_append (first second : List Leaf) :
    contentLength (first ++ second) = contentLength first + contentLength second := by
  simp [contentLength]

-- No byte of a mail belongs to two of its leaves.
theorem contentLength_leaves [ForeignDecoders] (inDigest : Bool) (bytes : Bytes) {header : Header}
    {part : Part} (done : read inDigest bytes = .ok (header, part)) :
    contentLength part.leaves ≤ bytes.length := by
  obtain ⟨content, found, shape⟩ := read_ok done
  have short := readAfter_length found
  clear done
  rcases shape with rfl | ⟨parts, rfl, each⟩
  · simpa [leaves, contentLength, Leaf.ofHeader] using short
  have bound := total_divide (MediaType.ofHeader header inDigest) content
  have inside : ∀ slice ∈ divide (MediaType.ofHeader header inDigest) content,
      slice.length < bytes.length := fun slice member =>
    (divide_length member).trans_le short
  refine le_trans ?_ (bound.trans short)
  rw [leaves]
  generalize divide (MediaType.ofHeader header inDigest) content = slices at each inside
  -- Each slice is shorter than the whole, and its leaves are no longer than the slice.
  induction each with
  | nil => exact Nat.zero_le _
  | @cons slice part slices parts made _ ih =>
    obtain ⟨first, rest⟩ := List.forall_mem_cons.1 inside
    obtain ⟨inner, read⟩ := made
    have front := contentLength_leaves _ slice read
    have back := ih rest
    simp only [total] at back
    simp only [leavesOfAll, contentLength_append, total, List.map_cons, List.sum_cons]
    omega
  termination_by bytes.length
  decreasing_by exact first

end Part

end MailRelay
