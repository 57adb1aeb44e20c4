import Mathlib.Logic.Equiv.Defs
import Mathlib.Order.Fin.Basic
import Mathlib.Order.WellFounded
import PackageDepot.Router.Table

namespace PackageDepot

namespace Pattern

variable {pattern other : Pattern} {path stem target : String}

def Accepts (pattern : Pattern) (target : String) : Prop :=
  ∃ remainder, pattern.remainder? target = some remainder

/-- Some target is accepted by both patterns. -/
def Overlaps (pattern other : Pattern) : Prop :=
  ∃ target, pattern.Accepts target ∧ other.Accepts target

/-- What tells by their texts that two patterns overlap: their paths are the same, the stem of one begins
the path of the other without being all of it, or the stem of one begins the stem of the other. -/
def Meets : Pattern → Pattern → Prop
  | exact path, exact other => path = other
  | exact path, below stem => stem.toList <+: path.toList ∧ stem ≠ path
  | below stem, exact path => stem.toList <+: path.toList ∧ stem ≠ path
  | below stem, below other => stem.toList <+: other.toList ∨ other.toList <+: stem.toList

instance : (pattern other : Pattern) → Decidable (pattern.Meets other)
  | exact path, exact other => inferInstanceAs (Decidable (path = other))
  | exact path, below stem =>
    inferInstanceAs (Decidable (stem.toList <+: path.toList ∧ stem ≠ path))
  | below stem, exact path =>
    inferInstanceAs (Decidable (stem.toList <+: path.toList ∧ stem ≠ path))
  | below stem, below other =>
    inferInstanceAs (Decidable (stem.toList <+: other.toList ∨ other.toList <+: stem.toList))

theorem not_accepts_iff : ¬ pattern.Accepts target ↔ pattern.remainder? target = none := by
  simp [Accepts, Option.eq_none_iff_forall_ne_some]

theorem accepts_exact_iff : (exact path).Accepts target ↔ target = path := by
  simp [Accepts, remainder?]

theorem accepts_below_iff :
    (below stem).Accepts target ↔ stem.toList <+: target.toList ∧ stem ≠ target := by
  simp [Accepts, remainder?]

/-- One more character after a text makes a target that lies below all that the text begins with. -/
theorem accepts_below_push (within : stem.toList <+: path.toList) :
    (below stem).Accepts (path ++ "x") := by
  rw [accepts_below_iff, String.toList_append]
  refine ⟨within.trans (List.prefix_append _ _), ?_⟩
  intro same
  have longer := within.length_le
  rw [same, String.toList_append, List.length_append] at longer
  exact Nat.not_succ_le_self _ longer

theorem Overlaps.symm (both : pattern.Overlaps other) : other.Overlaps pattern := by
  obtain ⟨target, accepted, acceptedToo⟩ := both
  exact ⟨target, acceptedToo, accepted⟩

theorem overlaps_exact_iff : (exact path).Overlaps other ↔ other.Accepts path := by
  simp only [Overlaps, accepts_exact_iff, exists_eq_left]

theorem overlaps_iff_meets : pattern.Overlaps other ↔ pattern.Meets other := by
  cases pattern with
  | exact path =>
    rw [overlaps_exact_iff]
    cases other with
    | exact other => exact accepts_exact_iff
    | below stem => exact accepts_below_iff
  | below stem =>
    cases other with
    | exact path =>
      have turned : (below stem).Overlaps (exact path) ↔ (exact path).Overlaps (below stem) :=
        ⟨Overlaps.symm, Overlaps.symm⟩
      rw [turned, overlaps_exact_iff]
      exact accepts_below_iff
    | below other =>
      constructor
      · rintro ⟨target, first, second⟩
        exact List.prefix_or_prefix_of_prefix (accepts_below_iff.mp first).1
          (accepts_below_iff.mp second).1
      · rintro (within | within)
        · exact ⟨_, accepts_below_push within, accepts_below_push (List.prefix_refl _)⟩
        · exact ⟨_, accepts_below_push (List.prefix_refl _), accepts_below_push within⟩

end Pattern

namespace Router

variable {source : PackageSource} {target : String} {rules others : List Rule} {rule next : Rule}

theorem answer?_append (rules others : List Rule) : answer? source target (rules ++ others) =
    (answer? source target rules).or (answer? source target others) := by
  induction rules with
  | nil => rfl
  | cons rule rest ih =>
    rw [List.cons_append, answer?, answer?]
    cases rule.pattern.remainder? target with
    | none => exact ih
    | some remainder => rfl

theorem answer?_eq_none_iff :
    answer? source target rules = none ↔ ∀ rule ∈ rules, ¬ rule.pattern.Accepts target := by
  induction rules with
  | nil => simp [answer?]
  | cons rule rest ih =>
    rw [answer?, List.forall_mem_cons, Pattern.not_accepts_iff, ← ih]
    cases rule.pattern.remainder? target with
    | none => simp
    | some remainder => simp

/-- The rule that answers is the first one that accepts the target. -/
theorem answer?_of_first {index : Fin rules.length} {remainder : String}
    (accepted : (rules.get index).pattern.remainder? target = some remainder)
    (first : ∀ earlier < index, ¬ (rules.get earlier).pattern.Accepts target) :
    answer? source target rules = some ((rules.get index).handler source remainder) := by
  have front : answer? source target (rules.take index) = none := by
    rw [answer?_eq_none_iff]
    intro rule member
    obtain ⟨earlier, before, rfl⟩ := List.mem_take_iff_getElem.mp member
    obtain ⟨sooner, known⟩ := Nat.lt_min.mp before
    exact first ⟨earlier, known⟩ sooner
  have split : rules.take index ++ rules.get index :: rules.drop (index + 1) = rules := by simp
  rw [← congrArg (answer? source target) split, answer?_append, front, Option.none_or, answer?,
    accepted]

theorem exists_first {index : Fin rules.length} (accepted : (rules.get index).pattern.Accepts target) :
    ∃ first : Fin rules.length, (rules.get first).pattern.Accepts target ∧
      ∀ earlier < first, ¬ (rules.get earlier).pattern.Accepts target := by
  obtain ⟨first, here, least⟩ := wellFounded_lt.has_min
    {index : Fin rules.length | (rules.get index).pattern.Accepts target} ⟨index, accepted⟩
  exact ⟨first, here, fun earlier before held => least earlier held before⟩

/-- Other rules are the given ones in an order that keeps any two of them in their order of which some
target is accepted by both. -/
structure Reordering (rules others : List Rule) where
  position : Fin rules.length ≃ Fin others.length
  same : ∀ index, others.get (position index) = rules.get index
  keeps : ∀ earlier later, earlier < later →
    (rules.get earlier).pattern.Overlaps (rules.get later).pattern →
    position earlier < position later

/-- The first rule that accepts a target is still the first one after a reordering, since every other
rule that accepts the target overlaps with it. -/
theorem Reordering.first (order : Reordering rules others) {index : Fin rules.length}
    (accepted : (rules.get index).pattern.Accepts target)
    (first : ∀ earlier < index, ¬ (rules.get earlier).pattern.Accepts target) :
    ∀ earlier < order.position index, ¬ (others.get earlier).pattern.Accepts target := by
  intro earlier before acceptedToo
  obtain ⟨origin, rfl⟩ := order.position.surjective earlier
  rw [order.same] at acceptedToo
  rcases lt_trichotomy origin index with sooner | rfl | later
  · exact first origin sooner acceptedToo
  · exact lt_irrefl _ before
  · exact lt_asymm before (order.keeps index origin later ⟨target, accepted, acceptedToo⟩)

theorem Reordering.mem_iff (order : Reordering rules others) : rule ∈ others ↔ rule ∈ rules := by
  simp only [List.mem_iff_get, ← order.same]
  exact (order.position.surjective.exists (p := fun index => others.get index = rule))

/-- A reordering changes no answer. -/
theorem Reordering.answer?_eq (order : Reordering rules others) :
    answer? source target others = answer? source target rules := by
  by_cases taken : ∃ index, (rules.get index).pattern.Accepts target
  · obtain ⟨_, accepted⟩ := taken
    obtain ⟨index, ⟨remainder, here⟩, first⟩ := exists_first accepted
    have moved := order.first ⟨remainder, here⟩ first
    rw [answer?_of_first here first, answer?_of_first (by rw [order.same]; exact here) moved,
      order.same]
  · have refused : ∀ rule ∈ rules, ¬ rule.pattern.Accepts target := by
      intro rule member accepted
      obtain ⟨index, rfl⟩ := List.mem_iff_get.mp member
      exact taken ⟨index, accepted⟩
    rw [answer?_eq_none_iff.mpr refused,
      answer?_eq_none_iff.mpr fun rule member => refused rule (order.mem_iff.mp member)]

/-- Two neighbours that accept no target in common may change places. -/
theorem answer?_swap (apart : ¬ rule.pattern.Overlaps next.pattern) (back : List Rule) :
    answer? source target (next :: rule :: back) = answer? source target (rule :: next :: back) := by
  simp only [answer?]
  cases first : rule.pattern.remainder? target with
  | none => rfl
  | some remainder =>
    cases second : next.pattern.remainder? target with
    | none => rfl
    | some _ => exact absurd ⟨target, ⟨_, first⟩, _, second⟩ apart

/-- The router on which rules were registered one after the other. -/
def registered (source : PackageSource) (rules : List Rule) : Router :=
  rules.foldl (fun router rule => router.register rule.pattern rule.handler) { source }

theorem foldl_register (router : Router) (rules : List Rule) :
    rules.foldl (fun router rule => router.register rule.pattern rule.handler) router =
      ⟨router.source, router.rules ++ rules⟩ := by
  induction rules generalizing router with
  | nil => rw [List.foldl_nil, List.append_nil]
  | cons rule rest ih =>
    rw [List.foldl_cons, ih]
    simp [register]

theorem route_registered (source : PackageSource) (rules : List Rule) (target : String) :
    (registered source rules).route target =
      (answer? source target rules).getD (.quiet Reply.notFound) := by
  rw [registered, foldl_register, route, List.nil_append]

theorem route_register (source : PackageSource) (rules : List Rule) (pattern : Pattern)
    (handler : Handler) (target : String) :
    ((registered source rules).register pattern handler).route target =
      ((answer? source target rules).or (answer? source target [⟨pattern, handler⟩])).getD
        (.quiet Reply.notFound) := by
  rw [registered, foldl_register, register, route, List.nil_append, answer?_append]

/-- A rule that is registered last leaves every answer as it is but to the targets that it accepts and
no rule before it does; these it answers from its remainder. Which patterns accept a target in common
shows in their texts. Neighbours that do not may change places, and so no order of the rules that
keeps overlapping ones in theirs changes any answer. -/
theorem registered_precedence (source : PackageSource) (target : String) :
    (∀ (rules : List Rule) (pattern : Pattern) (handler : Handler),
      ((∃ rule ∈ rules, rule.pattern.Accepts target) ∨ ¬ pattern.Accepts target →
        ((registered source rules).register pattern handler).route target =
          (registered source rules).route target) ∧
      ∀ remainder, (∀ rule ∈ rules, ¬ rule.pattern.Accepts target) →
        pattern.remainder? target = some remainder →
        ((registered source rules).register pattern handler).route target =
          handler source remainder) ∧
    (∀ pattern other : Pattern, pattern.Overlaps other ↔ pattern.Meets other) ∧
    (∀ (front back : List Rule) (rule next : Rule), ¬ rule.pattern.Overlaps next.pattern →
      (registered source (front ++ next :: rule :: back)).route target =
        (registered source (front ++ rule :: next :: back)).route target) ∧
    ∀ rules others : List Rule, Reordering rules others →
      (registered source others).route target = (registered source rules).route target := by
  refine ⟨fun rules pattern handler => ⟨?_, ?_⟩, fun _ _ => Pattern.overlaps_iff_meets, ?_, ?_⟩
  · intro settled
    rw [route_register, route_registered]
    rcases settled with ⟨rule, member, accepted⟩ | refused
    · have answered : answer? source target rules ≠ none :=
        fun none => answer?_eq_none_iff.mp none rule member accepted
      obtain ⟨reply, found⟩ := Option.ne_none_iff_exists'.mp answered
      rw [found, Option.some_or]
    · have idle : answer? source target [⟨pattern, handler⟩] = none := by
        rw [answer?_eq_none_iff, List.forall_mem_singleton]
        exact refused
      rw [idle, Option.or_none]
  · intro remainder earlier accepted
    rw [route_register, answer?_eq_none_iff.mpr earlier, Option.none_or, answer?, accepted,
      Option.getD_some]
  · intro front back rule next apart
    rw [route_registered, route_registered, answer?_append, answer?_append, answer?_swap apart]
  · intro rules others order
    rw [route_registered, route_registered, order.answer?_eq]

/-- No two rules of a directory's router accept a target in common, so that they may be registered in
any order. -/
theorem registered_precedence_reversed :
    let source := Directory.source {} []
    let rules := (directory {} []).rules
    (∀ target, (registered source rules.reverse).route target =
        (registered source rules).route target) ∧
      ((registered source rules).register (.below "/") .fetch).route "/packages/a" =
        (registered source rules).route "/packages/a" ∧
      ((registered source rules).register (.below "/") .fetch).route "/a" =
        Handler.fetch source "a" ∧
      (Pattern.exact "/packages/list").Overlaps (.below "/packages/") ∧
      ¬ (Pattern.exact "/packages/").Overlaps (.below "/packages/") := by
  intro source rules
  let reversed : Reordering rules rules.reverse := {
    position := (Fin.revPerm : Equiv.Perm (Fin 4))
    same := fun index : Fin 4 => match index with
      | 0 => rfl
      | 1 => rfl
      | 2 => rfl
      | 3 => rfl
    keeps := by
      simp only [Pattern.overlaps_iff_meets]
      decide }
  obtain ⟨more, overlaps, -, -⟩ := registered_precedence source "/packages/a"
  obtain ⟨fresh, -⟩ := registered_precedence source "/a"
  refine ⟨?_, ?_, ?_, (overlaps _ _).mpr (by decide), mt (overlaps _ _).mp (by decide)⟩
  · intro target
    obtain ⟨-, -, -, reordered⟩ := registered_precedence source target
    exact reordered rules rules.reverse reversed
  · refine (more rules (.below "/") .fetch).1 (.inl ⟨⟨.below "/packages/", .fetch⟩, ?_, ?_⟩)
    · exact List.mem_of_getLast? rfl
    · exact Pattern.accepts_below_iff.mpr (by decide)
  · refine (fresh rules (.below "/") .fetch).2 "a" ?_ (by decide)
    exact answer?_eq_none_iff.mp (rfl : answer? source _ _ = none)

end Router

end PackageDepot
