import PackageDepot.Json.Token

namespace PackageDepot.Json

/-- What is open around a value. -/
inductive Frame where
  | array
  | object
deriving DecidableEq, Repr

mutual

/-- Skips a value of any depth, which must be well-formed, and then whatever it takes to close the frames
around it. -/
def skipValue : List Frame → List Token → Except FormatFault (List Token)
  | _, [] => .error .truncated
  | frames, .word :: rest => skipAfter frames rest
  | frames, .number _ :: rest => skipAfter frames rest
  | frames, .string _ :: rest => skipAfter frames rest
  | frames, .openArray :: .closeArray :: rest => skipAfter frames rest
  | frames, .openArray :: rest => skipValue (.array :: frames) rest
  | frames, .openObject :: .closeObject :: rest => skipAfter frames rest
  | frames, .openObject :: rest => skipKey frames rest
  | _, .brokenString _ skipped :: _ => .error skipped
  | _, .brokenWord _ skipped :: _ => .error skipped
  | _, _ :: _ => .error .malformed

def skipKey : List Frame → List Token → Except FormatFault (List Token)
  | _, [] => .error .truncated
  | _, [.string _] => .error .truncated
  | frames, .string _ :: .colon :: rest => skipValue (.object :: frames) rest
  | _, .brokenString _ skipped :: _ => .error skipped
  | _, _ :: _ => .error .malformed

/-- Goes on after a value: to the next one in the frame around it, or out of that frame. -/
def skipAfter : List Frame → List Token → Except FormatFault (List Token)
  | [], rest => .ok rest
  | _ :: _, [] => .error .truncated
  | .array :: frames, .comma :: rest => skipValue (.array :: frames) rest
  | .array :: frames, .closeArray :: rest => skipAfter frames rest
  | .object :: frames, .comma :: rest => skipKey frames rest
  | .object :: frames, .closeObject :: rest => skipAfter frames rest
  | _ :: _, _ :: _ => .error .malformed

end

/-- What is left after a skip is shorter than what stood there before. -/
theorem skip_length (bound : Nat) : ∀ (tokens : List Token) (frames : List Frame)
    (rest : List Token), tokens.length ≤ bound →
    (skipValue frames tokens = .ok rest → rest.length < tokens.length) ∧
    (skipKey frames tokens = .ok rest → rest.length < tokens.length) ∧
    (skipAfter frames tokens = .ok rest → rest.length ≤ tokens.length) := by
  induction bound with
  | zero =>
    intro tokens frames rest short
    obtain rfl : tokens = [] := List.length_eq_zero_iff.mp (Nat.le_zero.mp short)
    refine ⟨by simp [skipValue], by simp [skipKey], ?_⟩
    cases frames <;> simp +contextual [skipAfter]
  | succ bound ih =>
    intro tokens frames rest short
    refine ⟨fun read => ?_, fun read => ?_, fun read => ?_⟩
    · unfold skipValue at read
      split at read <;> grind
    · unfold skipKey at read
      split at read <;> grind
    · unfold skipAfter at read
      split at read <;> grind

theorem skipValue_length {frames : List Frame} {tokens rest : List Token}
    (read : skipValue frames tokens = .ok rest) : rest.length < tokens.length :=
  (skip_length _ tokens frames rest (Nat.le_refl _)).1 read

end PackageDepot.Json
