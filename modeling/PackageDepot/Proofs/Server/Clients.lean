import PackageDepot.Proofs.Http.Consumption
import PackageDepot.Proofs.Http.Framing
import PackageDepot.Proofs.Server.Packing

/-! What a client gets back for what it sends. It is one reply, or nothing; which of them does not
depend on the chunks in which the client sends, and a client that falls silent gets the same as one
that closes its side, if what it has sent is enough. -/

namespace PackageDepot.Client

open Http

variable {client : Client} {limits : ReadLimits}

theorem supply_script (client : Client) : client.script.supply =
    (client.chunks.flatten, if client.closes then none else some IoError.noneInTime.kind) := by
  obtain ⟨chunks, closes⟩ := client
  simp only [script]
  induction chunks with
  | nil => cases closes <;> rfl
  | cons chunk chunks ih =>
    cases chunk with
    | nil => simpa using ih
    | cons octet octets => simpa [Script.supply, Prod.ext_iff] using ih

/-- Without buffers for a request nobody gets anything back. -/
theorem received_of_not_allocatable (router : Router) (beyond : ¬ limits.Allocatable) :
    client.received router limits = [] := by
  simp [received, Router.exchange, Script.requestText, Script.read_of_not_allocatable beyond, Except.map]

/-- A client gets back the reply to the window of what it sends, unless it falls silent before that is
enough. -/
theorem received_eq (router : Router) (allocatable : limits.Allocatable) (client : Client) :
    client.received router limits =
      if client.closes = true ∨ limits.Enough client.chunks.flatten then
        (router.respond (Utf8.text (limits.window client.chunks.flatten))).value.elim []
          Response.toWire
      else [] := by
  have supplied := supply_script client
  split
  · next ends =>
    have answered : router.exchange limits client.script = _ :=
      Router.exchange_supplied router allocatable (by simpa [supplied] using ends)
    rw [received, answered, supplied]
    cases router.respond (Utf8.text (limits.window client.chunks.flatten)) with
    | mk value events => cases value <;> rfl
  · next cut =>
    obtain ⟨open?, short⟩ := not_or.mp cut
    have failed : (Reading.onward limits [] client.script).outcome =
        .error (.io IoError.noneInTime.kind) := by
      rw [Reading.onward_eq_error_iff, supplied]
      exact ⟨if_neg open?, short⟩
    simp [received, Router.exchange, Script.requestText, Script.read_of_allocatable allocatable, failed,
      Except.map]

/-- Two clients that close get the same back for the same octets, whatever chunks they send them in. -/
theorem received_congr (router : Router) (limits : ReadLimits) {other : Client}
    (closes : client.closes = true) (otherCloses : other.closes = true)
    (same : client.chunks.flatten = other.chunks.flatten) :
    client.received router limits = other.received router limits := by
  by_cases allocatable : limits.Allocatable
  · rw [received_eq router allocatable, received_eq router allocatable, closes, otherCloses, same]
  · rw [received_of_not_allocatable router allocatable, received_of_not_allocatable router allocatable]

/-- What a client gets back, if anything, is one reply and nothing after it. -/
theorem received_cases (client : Client) (router : Router) (limits : ReadLimits) :
    client.received router limits = [] ∨
      ∃ response, Response.ofWire? (client.received router limits) = some (response, []) := by
  unfold received
  split
  · next response _ _ =>
    right
    exact ⟨response, by simpa using Response.ofWire?_toWire response []⟩
  · exact .inl rfl
  · exact .inl rfl

/-- A client that closes is left without a reply only if it has sent nothing. -/
theorem received_eq_nil_iff (router : Router) (allocatable : limits.Allocatable)
    (room : 1 ≤ limits.total) (closes : client.closes = true) :
    client.received router limits = [] ↔ client.chunks.flatten = [] := by
  have empty : client.chunks.flatten = [] ↔
      (router.respond (Utf8.text (limits.window client.chunks.flatten))).value = none := by
    rw [Router.value_respond_eq_none_iff, Utf8.text_eq_empty_iff, ReadLimits.window_eq_nil_iff room]
  rw [received_eq router allocatable, if_pos (.inl closes), empty]
  cases (router.respond (Utf8.text (limits.window client.chunks.flatten))).value with
  | none => simp
  | some response => simp [Response.toWire_ne_nil]

end PackageDepot.Client
