import PackageDepot.Http.Request

namespace PackageDepot.Http

variable {octets header body : Bytes}

theorem hasHeaderEnd_iff : hasHeaderEnd octets = true ↔ headerEnd <:+: octets := by
  induction octets with
  | nil => simp [hasHeaderEnd, headerEnd]
  | cons octet rest ih =>
    rw [hasHeaderEnd, Bool.or_eq_true, ih, List.isPrefixOf_iff_prefix, List.infix_cons_iff]

/-- A header ends at the front, or where the header of the octets after the first one ends. -/
theorem splitHeader?_cons_cases {octet : UInt8} {rest : Bytes}
    (split : splitHeader? (octet :: rest) = some (header, body)) :
    (headerEnd <+: octet :: rest ∧ header = headerEnd ∧ body = rest.drop 3) ∨
      ∃ front, ¬ headerEnd <+: octet :: rest ∧ header = octet :: front ∧
        splitHeader? rest = some (front, body) := by
  by_cases ends : headerEnd <+: octet :: rest
  · simp only [splitHeader?, ends, ↓reduceIte, Option.some.injEq, Prod.mk.injEq] at split
    exact .inl ⟨ends, split.1.symm, split.2.symm⟩
  · simp only [splitHeader?, ends, ↓reduceIte, Option.map_eq_some_iff] at split
    obtain ⟨⟨front, back⟩, inner, same⟩ := split
    obtain ⟨rfl, rfl⟩ := Prod.mk.inj same
    exact .inr ⟨front, ends, rfl, inner⟩

theorem headerEnd_suffix (split : splitHeader? octets = some (header, body)) :
    headerEnd <:+ header := by
  induction octets generalizing header with
  | nil => simp [splitHeader?] at split
  | cons octet rest ih =>
    rcases splitHeader?_cons_cases split with ⟨-, rfl, -⟩ | ⟨front, -, rfl, inner⟩
    · exact List.suffix_refl _
    · exact (ih inner).trans (List.suffix_cons _ _)

theorem header_ne_nil (split : splitHeader? octets = some (header, body)) : header ≠ [] := by
  rintro rfl
  simpa [headerEnd] using headerEnd_suffix split

/-- Octets that arrive later do not move the end of a header. -/
theorem splitHeader?_append_right (split : splitHeader? octets = some (header, body))
    (more : Bytes) : splitHeader? (octets ++ more) = some (header, body ++ more) := by
  induction octets generalizing header with
  | nil => simp [splitHeader?] at split
  | cons octet rest ih =>
    rcases splitHeader?_cons_cases split with ⟨ends, rfl, rfl⟩ | ⟨front, ends, rfl, inner⟩
    · have enough : 3 ≤ rest.length := by simpa [headerEnd] using ends.length_le
      have still : headerEnd <+: octet :: (rest ++ more) := ends.trans (List.prefix_append _ _)
      simp [splitHeader?, still, List.drop_append_of_le_length enough]
    · have enough : headerEnd.length ≤ (octet :: rest).length := by
        have whole := congrArg List.length (splitHeader?_append inner)
        have bound := (headerEnd_suffix inner).length_le
        simp only [List.length_append, List.length_cons] at whole ⊢
        omega
      have notYet : ¬ headerEnd <+: octet :: (rest ++ more) := by
        intro early
        exact ends (List.prefix_of_prefix_length_le early (List.prefix_append _ more) enough)
      simp [splitHeader?, notYet, ih inner]

theorem splitHeader?_header (split : splitHeader? octets = some (header, body)) :
    splitHeader? header = some (header, []) := by
  induction octets generalizing header with
  | nil => simp [splitHeader?] at split
  | cons octet rest ih =>
    rcases splitHeader?_cons_cases split with ⟨-, rfl, -⟩ | ⟨front, ends, rfl, inner⟩
    · rfl
    · have notYet : ¬ headerEnd <+: octet :: front := by
        intro early
        apply ends
        rw [← splitHeader?_append inner]
        exact early.trans (List.prefix_append (octet :: front) body)
      simp [splitHeader?, notYet, ih inner]

/-- No blank line comes before the one that ends a header. -/
theorem header_prefix {front back : Bytes} (split : splitHeader? octets = some (header, body))
    (blank : octets = front ++ headerEnd ++ back) : header <+: front ++ headerEnd := by
  induction octets generalizing header front with
  | nil => simp [splitHeader?] at split
  | cons octet rest ih =>
    rcases splitHeader?_cons_cases split with ⟨ends, rfl, -⟩ | ⟨first, ends, rfl, inner⟩
    · rw [blank] at ends
      exact List.prefix_of_prefix_length_le ends (List.prefix_append _ back) (by simp)
    · cases front with
      | nil => exact absurd ⟨back, blank.symm⟩ ends
      | cons head tail =>
        obtain ⟨rfl, later⟩ := List.cons.inj blank
        exact List.cons_prefix_cons.mpr ⟨rfl, ih inner later⟩

theorem not_lineEnd_prefix {line : Bytes} (named : line ≠ []) (single : 0x0a ∉ line) (rest : Bytes) :
    ¬ [0x0d, 0x0a] <+: line ++ 0x0d :: rest := by
  match line with
  | [] => exact absurd rfl named
  | [octet] => simp
  | octet :: next :: line =>
    have apart := List.ne_of_not_mem_cons (List.not_mem_of_not_mem_cons single)
    simp [apart]

theorem not_headerEnd_prefix {line : Bytes} (named : line ≠ []) (single : 0x0a ∉ line)
    (rest : Bytes) : ¬ headerEnd <+: line ++ 0x0d :: rest := by
  intro ends
  have starts : [0x0d, 0x0a] <+: headerEnd := ⟨[0x0d, 0x0a], rfl⟩
  exact not_lineEnd_prefix named single rest (starts.trans ends)

/-- A header does not end with a line that another line follows. -/
theorem splitHeader?_line_append {line rest : Bytes} (single : 0x0a ∉ line)
    (another : ¬ [0x0d, 0x0a] <+: rest) :
    splitHeader? (line ++ 0x0d :: 0x0a :: rest) =
      (splitHeader? rest).map fun (header, body) => (line ++ 0x0d :: 0x0a :: header, body) := by
  induction line with
  | nil =>
    have here : ¬ headerEnd <+: 0x0d :: 0x0a :: rest := by simpa [headerEnd] using another
    have next : ¬ headerEnd <+: 0x0a :: rest := by simp [headerEnd]
    rw [List.nil_append, splitHeader?, if_neg here, splitHeader?, if_neg next, Option.map_map]
    rfl
  | cons octet line ih =>
    have here : ¬ headerEnd <+: octet :: (line ++ 0x0d :: 0x0a :: rest) :=
      not_headerEnd_prefix (List.cons_ne_nil octet line) single _
    rw [List.cons_append, splitHeader?, if_neg here, ih (List.not_mem_of_not_mem_cons single), Option.map_map]
    rfl

theorem splitHeader?_line_end {line : Bytes} (single : 0x0a ∉ line) (rest : Bytes) :
    splitHeader? (line ++ (headerEnd ++ rest)) = some (line ++ headerEnd, rest) := by
  induction line with
  | nil => simp [splitHeader?, headerEnd]
  | cons octet line ih =>
    have here : ¬ headerEnd <+: octet :: (line ++ (headerEnd ++ rest)) :=
      not_headerEnd_prefix (List.cons_ne_nil octet line) single _
    rw [List.cons_append, splitHeader?, if_neg here, ih (List.not_mem_of_not_mem_cons single)]
    rfl

/-- Lines and an empty one are a header, whatever follows them. -/
theorem splitHeader?_lines {lines : List Bytes} (given : lines ≠ [])
    (plain : ∀ line ∈ lines, line ≠ [] ∧ 0x0a ∉ line) (rest : Bytes) :
    splitHeader? (lines.flatMap (· ++ [0x0d, 0x0a]) ++ 0x0d :: 0x0a :: rest) =
      some (lines.flatMap (· ++ [0x0d, 0x0a]) ++ [0x0d, 0x0a], rest) := by
  induction lines with
  | nil => exact absurd rfl given
  | cons line lines ih =>
    obtain ⟨⟨-, single⟩, others⟩ := List.forall_mem_cons.mp plain
    cases lines with
    | nil =>
      have ends := splitHeader?_line_end single rest
      simpa [headerEnd] using ends
    | cons next more =>
      obtain ⟨⟨named, nextSingle⟩, -⟩ := List.forall_mem_cons.mp others
      have another := not_lineEnd_prefix named nextSingle
        (0x0a :: (more.flatMap (· ++ [0x0d, 0x0a]) ++ 0x0d :: 0x0a :: rest))
      have later := ih (List.cons_ne_nil next more) others
      simp only [List.flatMap_cons, List.append_assoc, List.cons_append, List.nil_append]
        at another later ⊢
      rw [splitHeader?_line_append single another, later]
      rfl

end PackageDepot.Http
