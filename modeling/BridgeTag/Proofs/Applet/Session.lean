import BridgeTag.Proofs.Apdu.Response
import BridgeTag.Proofs.Applet.Building
import BridgeTag.Proofs.Dialogue

/-! Requests sent in turn over one card. Command sets keep nothing but the card they share, so
requests issued through several of them are one sequence. Its run is a transcript: a frame belongs
to one request and has one answer, and of a refused request the card notices nothing. -/
namespace BridgeTag.Applet.Request

open Apdu

/-- The frame of a request: the encoding of its command, or raw octets. -/
def Framed : Request → Octets → Prop
  | instruction order, sent => ∃ apdu, order.command = .ok apdu ∧ apdu.encode = .ok sent
  | passThroughPut data, sent => passThroughFrame data = .ok sent
  | command apdu, sent => apdu.encode = .ok sent
  | frame raw, sent => raw = sent

/-- Why a request has no frame: arguments make no command, or the command no octets. -/
def Refused : Request → Failure → Prop
  | instruction order, failure => order.command = .error failure ∨
      ∃ apdu, order.command = .ok apdu ∧ apdu.encode = .error failure
  | passThroughPut data, failure => passThroughFrame data = .error failure
  | command apdu, failure => apdu.encode = .error failure
  | frame _, _ => False

variable {request : Request} {failure : Failure} {sent : Octets} {answer : Answer}
  {result : Except Failure Response}

theorem octets_eq_ok : request.octets = .ok sent ↔ request.Framed sent := by
  cases request with
  | instruction order => exact Instruction.octets_eq_ok
  | passThroughPut data => exact Iff.rfl
  | command apdu => exact Iff.rfl
  | frame raw => simp [octets, Framed]

theorem octets_eq_error : request.octets = .error failure ↔ request.Refused failure := by
  cases request with
  | instruction order => exact Instruction.octets_eq_error
  | passThroughPut data => exact Iff.rfl
  | command apdu => exact Iff.rfl
  | frame raw => simp [octets, Refused]

/-- What an answer gives to the request whose frame it answers. -/
inductive Received : Answer → Except Failure Response → Prop where
  | response {octets : Octets} {response : Response}
      (parts : response.data ++ Octets.ofU16 response.sw = octets) :
      Received (.ok octets) (.ok response)
  | short {octets : Octets} (few : octets.length < 2) :
      Received (.ok octets) (.error ⟨.apdu, "parse", .invalidResponse⟩)
  | failed (words : String) :
      Received (.error words) (.error ⟨.protocol, "transceive", .transport words⟩)

theorem received_eq_iff : received answer = result ↔ Received answer result := by
  constructor
  · intro same
    cases answer with
    | error words =>
      cases same
      exact .failed words
    | ok octets =>
      cases result with
      | ok response => exact .response (Response.split_eq_ok.mp same)
      | error failure =>
        obtain ⟨few, rfl⟩ := Response.split_eq_error.mp same
        exact .short few
  · intro given
    cases given with
    | response parts => exact Response.split_eq_ok.mpr parts
    | short few => exact Response.split_eq_error.mpr ⟨few, rfl⟩
    | failed words => rfl

/-- Requests in their order, the frames sent for them, the answer to each frame, and the result of
each request. -/
inductive Transcript :
    List Request → List Octets → List Answer → List (Except Failure Response) → Prop where
  | nil : Transcript [] [] [] []
  | sent {request : Request} {frame : Octets} {answer : Answer} {result : Except Failure Response}
      {requests : List Request} {frames : List Octets} {answers : List Answer}
      {results : List (Except Failure Response)}
      (framed : request.Framed frame) (given : Received answer result)
      (later : Transcript requests frames answers results) :
      Transcript (request :: requests) (frame :: frames) (answer :: answers) (result :: results)
  | refused {request : Request} {failure : Failure} {requests : List Request}
      {frames : List Octets} {answers : List Answer} {results : List (Except Failure Response)}
      (unframed : request.Refused failure) (later : Transcript requests frames answers results) :
      Transcript (request :: requests) frames answers (.error failure :: results)

variable {card : Card} {earlier frames : List Octets} {requests before after : List Request}
  {results : List (Except Failure Response)}

theorem run_cons_framed (framed : request.Framed sent)
    (ran : (requests.mapM send).run card (sent :: earlier) = (results, frames)) :
    ((request :: requests).mapM send).run card earlier =
      (received (card.answer earlier sent) :: results, sent :: frames) := by
  have answered : request.send.run card earlier =
      (received (card.answer earlier sent), [sent]) := by
    unfold send
    rw [octets_eq_ok.mpr framed]
    rfl
  simp only [List.mapM_cons, bind_pure_comp]
  exact Dialogue.run_bind answered (Dialogue.run_map _ ran)

/-- The card is left as it was. -/
theorem run_cons_refused (unframed : request.Refused failure)
    (ran : (requests.mapM send).run card earlier = (results, frames)) :
    ((request :: requests).mapM send).run card earlier = (.error failure :: results, frames) := by
  have silent : request.send = pure (.error failure) := by
    unfold send
    rw [octets_eq_error.mpr unframed]
    rfl
  simp only [List.mapM_cons, bind_pure_comp, silent, pure_bind]
  exact Dialogue.run_map _ ran

theorem framed_or_refused (request : Request) :
    (∃ sent, request.Framed sent) ∨ ∃ failure, request.Refused failure := by
  cases found : request.octets with
  | ok sent => exact .inl ⟨sent, octets_eq_ok.mp found⟩
  | error failure => exact .inr ⟨failure, octets_eq_error.mp found⟩

theorem transcript_of_run (ran : (requests.mapM send).run card earlier = (results, frames)) :
    Transcript requests frames (card.answers earlier frames) results := by
  -- What the card has seen grows with each request that is sent, so it is quantified over.
  induction requests generalizing earlier results frames with
  | nil =>
    cases ran
    exact .nil
  | cons request requests ih =>
    rcases framed_or_refused request with ⟨sent, framed⟩ | ⟨failure, unframed⟩
    · rw [run_cons_framed framed rfl] at ran
      cases ran
      exact .sent framed (received_eq_iff.mp rfl) (ih rfl)
    · rw [run_cons_refused unframed rfl] at ran
      cases ran
      exact .refused unframed (ih rfl)

theorem run_without_refused (unframed : request.Refused failure)
    (ran : ((before ++ request :: after).mapM send).run card earlier = (results, frames)) :
    results[before.length]? = some (.error failure) ∧
      ((before ++ after).mapM send).run card earlier =
        (results.eraseIdx before.length, frames) := by
  induction before generalizing earlier results frames with
  | nil =>
    rw [List.nil_append, run_cons_refused unframed rfl] at ran
    cases ran
    exact ⟨rfl, rfl⟩
  | cons first before ih =>
    rw [List.cons_append] at ran
    rcases framed_or_refused first with ⟨sent, framed⟩ | ⟨reason, refused⟩
    · rw [run_cons_framed framed rfl] at ran
      cases ran
      obtain ⟨result, others⟩ := ih rfl
      exact ⟨result, run_cons_framed framed others⟩
    · rw [run_cons_refused refused rfl] at ran
      cases ran
      obtain ⟨result, others⟩ := ih rfl
      exact ⟨result, run_cons_refused refused others⟩

/-- Requests put to a card, whatever it answers, run to the end. Exactly those that have a frame
send it, in order and once, and the answer to it is their result. A refused request has its failure
for a result; without it the frames and all other results are the same. Where the card follows a
script, frames take its answers one by one. -/
theorem run_requests (card : Card) (requests : List Request) :
    ∃ results frames, (requests.mapM send).run card [] = (results, frames) ∧
      Transcript requests frames (card.answers [] frames) results ∧
      (∀ before request after failure, requests = before ++ request :: after →
        request.Refused failure → results[before.length]? = some (.error failure) ∧
          ((before ++ after).mapM send).run card [] =
            (results.eraseIdx before.length, frames)) ∧
      ∀ script activation, card = .scripted script activation → ∀ place < frames.length,
        (card.answers [] frames)[place]? = some (script[place]?.getD (.ok [0x90, 0x00])) := by
  refine ⟨_, _, rfl, transcript_of_run rfl, ?_, ?_⟩
  · intro before request after failure parts unframed
    subst parts
    exact run_without_refused unframed rfl
  · intro script activation scripted place within
    subst scripted
    have answered := Card.answers_scripted script activation [] _ within
    rwa [List.length_nil, Nat.zero_add] at answered

/-- Nothing is asked of the card for a read of no octets, so the link fails at the next request. -/
example : (([.instruction (.readBinary 0 0), .instruction .passThroughFetch,
      .passThroughPut [0xAA]] : List Request).mapM send).run
        (.scripted [.error "timeout"] (.ok [])) [] =
    ([.error ⟨.command, "read_binary", .illegalArgument⟩,
      .error ⟨.protocol, "transceive", .transport "timeout"⟩, .ok ⟨[], 0x9000⟩],
      [[0x00, 0xCA, 0x00, 0x00, 0x00], [0x00, 0x01, 0xAA]]) := rfl

end BridgeTag.Applet.Request
