import TokenGrammar.Unicode.Range

/-! # Byte sequences of ranges of characters

The UTF-8 forms of the characters in a range differ in their last bytes first. They are therefore
the sequences through a few lists of byte ranges.

* `Text.BytePath`: a range for each byte of a form.
* `Text.bytePaths`: the paths of the numbers between two bounds, in forms of one length.
* `Text.utf8Paths`: the paths of ranges of code points.
* `Text.length_of_mem_bytePaths`: all paths of one length have a range for each byte. -/

namespace TokenGrammar.Text

open Unicode (Range)

/-- A range for each byte of a form. -/
abbrev BytePath := List Range

/-- Paths after a first byte, the one for a digit that counts from `base` on. -/
def after (base digit : Nat) (paths : List BytePath) : List BytePath :=
  paths.map ((base + digit, base + digit) :: ·)

/-- The path of the digits from `first` to `last` with everything that `count` bytes can add. -/
def throughAll (base count first last : Nat) : List BytePath :=
  if first ≤ last then [(base + first, base + last) :: List.replicate count (0x80, 0xBF)] else []

/-- The paths of the numbers from `low` to `high` in forms of a first byte, which counts from
`base` on, and `count` bytes of six bits each. Only at the bounds do the later bytes not run through
their whole range. -/
def bytePaths (base : Nat) : (count low high : Nat) → List BytePath
  | 0, low, high => [[(base + low, base + high)]]
  | count + 1, low, high =>
      let unit := Nat.pow 64 (count + 1)
      let first := low / unit
      let last := high / unit
      if first = last then after base first (bytePaths 0x80 count (low % unit) (high % unit))
      else
        let start := if low % unit = 0 then first else first + 1
        let stop := if high % unit = unit - 1 then last else last - 1
        let before := after base first (bytePaths 0x80 count (low % unit) (unit - 1))
        let beyond := after base last (bytePaths 0x80 count 0 (high % unit))
        (if start = first then [] else before) ++ throughAll base (count + 1) start stop ++
          (if stop = last then [] else beyond)

/-- The lengths of forms: where the first byte counts from, how many bytes follow it, and the first
and last code point. -/
def formLengths : List (Nat × Nat × Range) :=
  [(0x00, 0, 0x0, 0x7F), (0xC0, 1, 0x80, 0x7FF), (0xE0, 2, 0x800, 0xFFFF),
    (0xF0, 3, 0x10000, 0x10FFFF)]

/-- The paths of ranges of code points, in order. -/
def utf8Paths (ranges : List Range) : List BytePath :=
  ranges.flatMap fun range =>
    formLengths.flatMap fun (base, count, first, last) =>
      let low := max range.1 first
      let high := min range.2 last
      if low ≤ high then bytePaths base count low high else []

theorem length_of_mem_after {base digit length : Nat} {paths : List BytePath} {path : BytePath}
    (lengths : ∀ tail ∈ paths, tail.length = length) (member : path ∈ after base digit paths) :
    path.length = length + 1 := by
  obtain ⟨tail, inner, rfl⟩ := List.mem_map.mp member
  rw [List.length_cons, lengths tail inner]

theorem length_of_mem_throughAll {base count first last : Nat} {path : BytePath}
    (member : path ∈ throughAll base count first last) : path.length = count + 1 := by
  rw [throughAll] at member
  split at member
  · rw [List.mem_singleton.mp member, List.length_cons, List.length_replicate]
  · cases member

/-- All paths of one length have a range for each byte. -/
theorem length_of_mem_bytePaths {base count low high : Nat} {path : BytePath}
    (member : path ∈ bytePaths base count low high) : path.length = count + 1 := by
  induction count generalizing base low high path with
  | zero => simp_all [bytePaths]
  | succ count induction =>
      have inner {base digit low high : Nat}
          (member : path ∈ after base digit (bytePaths 0x80 count low high)) :
          path.length = count + 1 + 1 :=
        length_of_mem_after (fun _ => induction) member
      rw [bytePaths] at member
      dsimp only at member
      generalize Nat.pow 64 (count + 1) = unit at member
      generalize low / unit = first at member
      generalize high / unit = last at member
      generalize (if low % unit = 0 then first else first + 1) = start at member
      generalize (if high % unit = unit - 1 then last else last - 1) = stop at member
      split at member
      · exact inner member
      · simp only [List.mem_append] at member
        rcases member with (member | member) | member
        · split at member
          · cases member
          · exact inner member
        · exact length_of_mem_throughAll member
        · split at member
          · cases member
          · exact inner member

end TokenGrammar.Text
