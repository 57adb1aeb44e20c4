import PackageDepot.Proofs.Http.RequestLine
import PackageDepot.Proofs.Http.Supply
import PackageDepot.Proofs.Router.Rules
import PackageDepot.Proofs.Text.Decoding

namespace PackageDepot

namespace Http

/-- The octets of a stream that a reply depends on: the header if it ends within the limit, and all
up to the limit otherwise. -/
def ReadLimits.window (limits : ReadLimits) (octets : Bytes) : Bytes :=
  match splitHeader? octets with
  | some (header, _) => if header.length ≤ limits.total then header else octets.take limits.total
  | none => octets.take limits.total

variable {limits : ReadLimits} {stream octets header : Bytes}

/-- A header that ends early is the window, whatever comes after it. -/
theorem ReadLimits.window_of_splitHeader? {body : Bytes} (within : octets <+: stream)
    (bounded : octets.length ≤ limits.total) (split : splitHeader? octets = some (header, body)) :
    limits.window stream = header := by
  obtain ⟨later, rfl⟩ := within
  have whole := splitHeader?_append split
  have short : header.length ≤ limits.total := by
    rw [← whole, List.length_append] at bounded
    omega
  simp [ReadLimits.window, splitHeader?_append_right split, short]

/-- The first octets up to the limit are the window, unless a header ends in them. -/
theorem ReadLimits.window_of_take
    (noEnd : hasHeaderEnd (stream.take limits.total) = false) :
    limits.window stream = stream.take limits.total := by
  unfold ReadLimits.window
  cases split : splitHeader? stream with
  | none => rfl
  | some parts =>
    obtain ⟨header, body⟩ := parts
    have long : ¬ header.length ≤ limits.total := by
      intro short
      have inside : header <+: stream.take limits.total := by
        rw [← splitHeader?_append split, List.take_append]
        simp [List.take_of_length_le short]
      have ended := hasHeaderEnd_iff.mpr ((headerEnd_suffix split).isInfix.trans inside.isInfix)
      rw [noEnd] at ended
      cases ended
    exact if_neg long

/-- A reading that stops in time takes the window, or more than the header that the window is. -/
theorem ReadLimits.window_of_enough (within : octets <+: stream)
    (bounded : octets.length ≤ limits.total) (stopped : limits.Enough octets ∨ octets = stream) :
    octets = limits.window stream ∨
      ∃ more, octets = limits.window stream ++ more ∧ headerEnd <:+ limits.window stream := by
  cases split : splitHeader? octets with
  | some parts =>
    obtain ⟨header, body⟩ := parts
    right
    rw [ReadLimits.window_of_splitHeader? within bounded split]
    exact ⟨body, (splitHeader?_append split).symm, headerEnd_suffix split⟩
  | none =>
    left
    have noEnd : hasHeaderEnd octets = false := by
      rw [← isSome_splitHeader?, split]
      rfl
    have cut : octets = stream.take limits.total := by
      rcases stopped with (full | ended) | all
      · obtain ⟨later, rfl⟩ := within
        rw [List.take_append_of_le_length full, List.take_of_length_le bounded]
      · rw [noEnd] at ended
        cases ended
      · rw [← all, List.take_of_length_le bounded]
    rw [cut] at noEnd ⊢
    exact (ReadLimits.window_of_take noEnd).symm

theorem ReadLimits.window_eq_nil_iff (room : 1 ≤ limits.total) :
    limits.window stream = [] ↔ stream = [] := by
  have positive : limits.total ≠ 0 := by omega
  unfold ReadLimits.window
  split
  · rename_i header body split
    have noHeader := header_ne_nil split
    have noStream : stream ≠ [] := by
      rintro rfl
      simp [splitHeader?] at split
    split
    · simp [noHeader, noStream]
    · simp [positive]
  · simp [positive]

end Http

namespace Router

open Http

theorem respond_congr (router : Router) {raw other : String} (sent : raw ≠ "") (otherSent : other ≠ "")
    (same : Request.firstLine raw.toList = Request.firstLine other.toList) :
    router.respond raw = router.respond other := by
  simp only [respond, sent, otherSent, ↓reduceIte, Request.parse_congr same]

/-- What follows a header is not looked at. -/
theorem respond_append_header (router : Router) {header : Bytes} (ended : headerEnd <:+ header)
    (more : Bytes) : router.respond (Utf8.text (header ++ more)) =
      router.respond (Utf8.text header) := by
  obtain ⟨front, rfl⟩ := ended
  have read (rest : Bytes) : (Utf8.text (front ++ headerEnd ++ rest)).toList =
      Utf8.decode (front ++ [0x0d]) ++ '\n' :: Utf8.decode ([0x0d, 0x0a] ++ rest) := by
    have ascii : (0x0a : UInt8).toNat < 0x80 := by decide
    have divided := Utf8.decode_append_ascii ascii (front ++ [0x0d]) ([0x0d, 0x0a] ++ rest)
    simpa [Utf8.text, headerEnd] using divided
  have sent (rest : Bytes) : Utf8.text (front ++ headerEnd ++ rest) ≠ "" := by
    simp [Utf8.text_eq_empty_iff, headerEnd]
  have alone := sent []
  have aloneRead := read []
  rw [List.append_nil] at alone aloneRead
  apply respond_congr router (sent more) alone
  rw [read more, aloneRead]
  exact Request.firstLine_append_feed _ _ _

/-- The reply to a stream that is read without failure is the reply to the window of its supply. -/
theorem exchange_supplied (router : Router) {limits : ReadLimits} {script : Script}
    (allocatable : limits.Allocatable)
    (ends : script.supply.2 = none ∨ limits.Enough script.supply.1) :
    router.exchange limits script =
      .ok (router.respond (Utf8.text (limits.window script.supply.1))) := by
  obtain ⟨octets, read, within, bounded, stopped⟩ := Reading.read_supplied allocatable ends
  have answered : router.exchange limits script = .ok (router.respond (Utf8.text octets)) := by
    simp [exchange, Script.requestText, read, Except.map]
  rw [answered]
  rcases ReadLimits.window_of_enough within bounded stopped with same | ⟨more, longer, ended⟩
  · rw [← same]
  · rw [longer, respond_append_header router ended]

theorem exchange_unbroken (router : Router) {limits : ReadLimits} {script : Script}
    (allocatable : limits.Allocatable) (unbroken : script.Unbroken) : router.exchange limits script =
      .ok (router.respond (Utf8.text (limits.window script.octets))) := by
  have whole := Script.supply_of_unbroken unbroken
  have answered := exchange_supplied router allocatable (.inl (congrArg Prod.snd whole))
  rwa [whole] at answered

/-- Within limits for which there are buffers, the reply to an unbroken stream is the reply to its
window: it depends neither on the blocks and interruptions in which the octets come, nor on how many
are read at a time, nor on what follows a header that ends in time. With room for at least one octet,
only an empty stream gets no reply. -/
theorem exchange_ignores_packing (router : Router) (limits : ReadLimits) (script : Script)
    (allocatable : limits.Allocatable) (unbroken : script.Unbroken) :
    router.exchange limits script =
        .ok (router.respond (Utf8.text (limits.window script.octets))) ∧
      (1 ≤ limits.total →
        ((router.respond (Utf8.text (limits.window script.octets))).value = none ↔
          script.octets = [])) ∧
      ∀ (chunk : Nat) (other : Script), ReadLimits.Allocatable { limits with chunk } → other.Unbroken →
        (other.octets = script.octets ∨ ∃ header body more,
          splitHeader? script.octets = some (header, body) ∧ header.length ≤ limits.total ∧
            other.octets = header ++ more) →
        router.exchange { limits with chunk } other = router.exchange limits script := by
  refine ⟨exchange_unbroken router allocatable unbroken, ?_, ?_⟩
  · intro room
    rw [value_respond_eq_none_iff, Utf8.text_eq_empty_iff, ReadLimits.window_eq_nil_iff room]
  · intro chunk other otherAllocatable otherUnbroken alike
    rw [exchange_unbroken router allocatable unbroken,
      exchange_unbroken router otherAllocatable otherUnbroken]
    have window : ReadLimits.window { limits with chunk } other.octets =
        limits.window script.octets := by
      rcases alike with same | ⟨header, body, more, split, short, same⟩
      · rw [same]
        rfl
      · have again := splitHeader?_append_right (splitHeader?_header split) more
        simp [ReadLimits.window, same, again, split, short]
    rw [window]

theorem exchange_ignores_packing_ping :
    let router := directory {} (Utf8.octets "/")
    let script : Script := [.block (Utf8.octets "GET /pi"), .failure .interrupted,
      .block (Utf8.octets "ng HTTP/1.0\r\n\r"), .block (Utf8.octets "\nmore")]
    script.Unbroken ∧
      router.exchange ⟨5, 30⟩ script = .ok (router.respond "GET /ping HTTP/1.0\r\n\r\n") ∧
      ∀ (chunk : Nat) (other : Script), chunk ≤ maxBufferSize → other.Unbroken →
        other.octets = script.octets →
          router.exchange ⟨chunk, 30⟩ other = router.exchange ⟨5, 30⟩ script := by
  intro router script
  have unbroken : script.Unbroken := by
    simp [script, Script.Unbroken, Utf8.octets, Utf8.encode]
  obtain ⟨window, -, packed⟩ := exchange_ignores_packing router ⟨5, 30⟩ script (by decide) unbroken
  have text : Utf8.text (ReadLimits.window ⟨5, 30⟩ script.octets) =
      "GET /ping HTTP/1.0\r\n\r\n" := by decide +kernel
  rw [text] at window
  refine ⟨unbroken, window, fun chunk other bounded whole same => ?_⟩
  have room : 30 ≤ maxBufferSize := by decide
  have allocatable : ReadLimits.Allocatable ⟨chunk, 30⟩ :=
    ⟨room, Nat.max_le.mpr ⟨bounded, by decide⟩⟩
  exact packed chunk other allocatable whole (.inl same)

/-- Within limits for which there is no buffer a request gets no reply at all. -/
theorem exchange_overflow :
    let router := directory {} (Utf8.octets "/")
    let limits : ReadLimits := ⟨512, 0x8000_0000_0000_0000⟩
    let script : Script := [.block (Utf8.octets "GET /ping HTTP/1.0\r\n\r\n")]
    script.Unbroken ∧ router.exchange limits script = .error .overflow ∧
      router.exchange limits script ≠
        .ok (router.respond (Utf8.text (limits.window script.octets))) := by
  intro router limits script
  have stopped : router.exchange limits script = .error .overflow := by
    rw [exchange, Script.requestText, Script.read_of_not_allocatable (by decide)]
    rfl
  refine ⟨?_, stopped, ?_⟩
  · simp [script, Script.Unbroken, Utf8.octets, Utf8.encode]
  · rw [stopped]
    simp

end Router

end PackageDepot
