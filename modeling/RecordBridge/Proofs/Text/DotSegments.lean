/-
# Paths without dot segments

A path is a row of segments, each behind a slash.  Whoever resolves an address drops
the dot segments of its path: a dot is left out, two dots take the segment before them
along, and where either stands last the path ends in a slash (`removeDots`).

Below whatever root, a segment stays where it is if it is no dot segment; a dot leaves
only what is above it, and two dots leave less (`removeDots_below`).
-/

namespace RecordBridge
namespace Text
namespace Path

/-- The path of some segments. -/
def ofSegments (segments : List (List Char)) : String :=
  String.ofList (segments.flatMap ('/' :: ·))

/-- Whether a segment is a dot segment. -/
def isDots (segment : List Char) : Bool := segment = ['.'] || segment = ['.', '.']

/-- What is kept of a path when another segment comes behind what is kept already. -/
def keep (kept : List (List Char)) (segment : List Char) : List (List Char) :=
  if segment = ['.'] then kept
  else if segment = ['.', '.'] then kept.dropLast
  else kept ++ [segment]

/-- Some segments without dot segments. -/
def dropDots (segments : List (List Char)) : List (List Char) :=
  segments.foldl keep [] ++ if segments.getLast?.any isDots then [[]] else []

/-- A path that starts with a slash, without its dot segments. -/
def removeDots (path : String) : String :=
  match path.toList with
  | '/' :: cs => ofSegments (dropDots (cs.splitOn '/'))
  | _ => path

/-- Dots in the middle, at the end and above the root. -/
example : removeDots "/a/b/c/./../../g" = "/a/g" ∧ removeDots "/a/b/.." = "/a/" ∧
    removeDots "/../a/." = "/a/" := by decide

variable {above front : List (List Char)} {segment : List Char}

theorem keep_of_not_isDots (h : isDots segment = false) (kept : List (List Char)) :
    keep kept segment = kept ++ [segment] := by
  simp only [isDots, Bool.or_eq_false_iff, decide_eq_false_iff_not] at h
  rw [keep, if_neg h.1, if_neg h.2]

/-- Segments that are no dot segments are kept. -/
theorem foldl_keep (h : ∀ s ∈ above, isDots s = false) (kept : List (List Char)) :
    above.foldl keep kept = kept ++ above := by
  induction above generalizing kept with
  | nil => exact (List.append_nil kept).symm
  | cons s above ih =>
    obtain ⟨hs, habove⟩ := List.forall_mem_cons.1 h
    rw [List.foldl_cons, keep_of_not_isDots hs, ih habove, List.append_assoc, List.singleton_append]

/-- What is left of a segment below others that are no dot segments. -/
def leave (above : List (List Char)) (segment : List Char) : List (List Char) :=
  if segment = ['.'] then above ++ [[]]
  else if segment = ['.', '.'] then above.dropLast ++ [[]]
  else above ++ [segment]

theorem dropDots_below (habove : ∀ s ∈ above, isDots s = false) (hne : above ≠ []) :
    dropDots (front ++ (above ++ [segment])) = front.foldl keep [] ++ leave above segment := by
  have hlast : (front ++ (above ++ [segment])).getLast? = some segment := by simp
  rw [dropDots, hlast, List.foldl_append, List.foldl_append, foldl_keep habove, List.foldl_cons,
    List.foldl_nil, Option.any_some, keep, leave, isDots]
  by_cases hdot : segment = ['.']
  · simp [hdot]
  · by_cases hdots : segment = ['.', '.']
    · simp [hdots, List.dropLast_append_of_ne_nil hne]
    · simp [hdot, hdots]

/-! ### Texts -/

theorem ofSegments_append (segments segments' : List (List Char)) :
    ofSegments (segments ++ segments') = ofSegments segments ++ ofSegments segments' := by
  rw [ofSegments, List.flatMap_append, String.ofList_append]
  rfl

theorem removeDots_eq {path : String} {cs : List Char} (h : path.toList = '/' :: cs) :
    removeDots path = ofSegments (dropDots (cs.splitOn '/')) := by
  rw [removeDots, h]
  rfl

/-- What is kept of a root. -/
def rootSegments (root : String) : List (List Char) := (root.toList.splitOn '/').foldl keep []

theorem removeDots_root (root : String) :
    removeDots ("/" ++ root ++ "/") = ofSegments (rootSegments root) ++ "/" := by
  have hchars : ("/" ++ root ++ "/").toList = '/' :: (root.toList ++ '/' :: []) := by simp
  have hlast : dropDots (root.toList.splitOn '/' ++ [[]]) = rootSegments root ++ [[]] := by
    simp [dropDots, keep, isDots, rootSegments]
  rw [removeDots_eq hchars, List.splitOn_append_cons_self, List.splitOn_nil, hlast,
    ofSegments_append]
  rfl

/-- The characters of a resource: segments with a slash behind each, and one more. -/
theorem splitOn_below (h : ∀ s ∈ above ++ [segment], '/' ∉ s) :
    (above.flatMap (· ++ ['/']) ++ segment).splitOn '/' = above ++ [segment] := by
  induction above with
  | nil => exact List.splitOn_eq_singleton (h segment (List.mem_singleton_self _))
  | cons s above ih =>
    obtain ⟨hs, habove⟩ := List.forall_mem_cons.1 h
    rw [List.flatMap_cons, List.append_assoc, List.append_assoc, List.singleton_append,
      List.splitOn_append_cons_self_of_not_mem hs, ih habove, List.cons_append]

/-- **What is left of a resource below a root.** -/
theorem removeDots_below {resource : String}
    (hresource : resource.toList = above.flatMap (· ++ ['/']) ++ segment)
    (hfree : ∀ s ∈ above ++ [segment], '/' ∉ s) (habove : ∀ s ∈ above, isDots s = false)
    (hne : above ≠ []) (root : String) :
    removeDots ("/" ++ root ++ "/" ++ resource)
      = ofSegments (rootSegments root) ++ ofSegments (leave above segment) := by
  have hchars : ("/" ++ root ++ "/" ++ resource).toList
      = '/' :: (root.toList ++ '/' :: (above.flatMap (· ++ ['/']) ++ segment)) := by
    simp [hresource]
  rw [removeDots_eq hchars, List.splitOn_append_cons_self, splitOn_below hfree,
    dropDots_below habove hne, ofSegments_append]
  rfl

end Path
end Text
end RecordBridge
