import Mathlib.Logic.Relation
import SocksProxy.Proofs.Session.Attempts

/-!
What a client brings about by what it sends, with nothing else to decide: one octet after the other
is read, one address after the other is tried. Sockets, buffers and events have no part in it, and
each step leaves no choice.
-/

namespace SocksProxy

open Net (SocketAddress)
open Wire (Method Refusal Request Status)

inductive Stage where
  | greeting (acceptable : List Method) (state : Wire.Greeting.State)
  | selecting (method : Method)
  | credentials (state : Wire.Credentials.State)
  | verdict (accepted : Bool)
  | request (state : Wire.Request.State)
  | resolving (request : Request)
  -- These addresses are left; the last one before them failed for this reason.
  | trying (request : Request) (targets : List SocketAddress) (last : Refusal)
  -- A connection is on its way, and this will come of it.
  | awaiting (request : Request) (rest : List SocketAddress) (outcome : Outcome)
  | replying (request : Request) (status : Status)
  | relaying
  | failed (cause : SessionError)
  | done

@[ext]
structure Dialogue where
  stage : Stage
  -- What the client sends and has not been read.
  ahead : Bytes
  -- What the client is told.
  told : Bytes
  user : Option String
  lookups : List (String × UInt16)
  attempts : List SocketAddress

/-- What a dialogue depends on beside the client's octets. -/
structure Setting where
  services : Services
  address : SocketAddress
  -- Whether the client ends its stream behind what it sends.
  ends : Bool

namespace Dialogue

def enter (stage : Stage) (d : Dialogue) : Dialogue := { d with stage }

def say (message : Message) (stage : Stage) (d : Dialogue) : Dialogue :=
  { d with stage, told := d.told ++ message.encode }

def refuse (request : Request) (why : Refusal) (d : Dialogue) : Dialogue :=
  d.say (.reply (.echo request (.failure why))) (.replying request (.failure why))

def check (services : Services) (credentials : Wire.Credentials) (d : Dialogue) : Dialogue :=
  match services.authenticate credentials with
  | .error cause => d.enter (.failed cause)
  | .ok true => { d with user := some credentials.name }.say (.verdict true) (.verdict true)
  | .ok false => d.say (.verdict false) (.verdict false)

def serve (services : Services) (request : Request) (d : Dialogue) : Dialogue :=
  if request.command = .connect then
    match request.socketAddress?, services.workerFault with
    | some address, _ => d.enter (.trying request [address] .hostUnreachable)
    | none, some cause => d.refuse request (SessionError.io cause).refusal
    | none, none =>
        { d with lookups := d.lookups ++ [(request.address.host, request.port)] }.enter
          (.resolving request)
  else d.refuse request .commandNotSupported

def attempt (services : Services) (request : Request) (target : SocketAddress)
    (rest : List SocketAddress) (d : Dialogue) : Dialogue :=
  { d with attempts := d.attempts ++ [target] }.enter
    (match services.route d.attempts target with
    | .refused why => .trying request rest why
    | .later outcome => .awaiting request rest outcome)

section Reading

variable {σ α : Type} (again : σ → Stage) (complete : α → Dialogue → Dialogue)

/-- What has been read is not enough, or wrong, or complete. -/
def digest (state : σ) (d : Dialogue) : Wire.News α → Dialogue
  | .needMore => d.enter (again state)
  | .failed fault => d.enter (.failed (.messageFormat fault.text))
  | .done message => complete message d

def read (around : Setting) (decoder : Wire.Decoder σ α) (state : σ) (d : Dialogue) :
    Option Dialogue :=
  match d.ahead with
  | [] => if around.ends then some (d.enter (.failed (.peerClosed around.address))) else none
  | octet :: rest =>
      let next := decoder.feed state octet
      (decoder.news next (decoder.progress next)).map
        ({ d with ahead := rest }.digest again complete next)

end Reading

/-- The next step, unless the client has to send more or the dialogue is over. -/
def advance (around : Setting) (d : Dialogue) : Option Dialogue :=
  match d.stage with
  | .greeting acceptable state =>
      d.read (.greeting acceptable) (fun method d => d.say (.selection method) (.selecting method))
        around (Wire.Greeting.decoder acceptable) state
  | .credentials state =>
      d.read .credentials (check around.services) around Wire.Credentials.decoder state
  | .request state => d.read .request (serve around.services) around Wire.Request.decoder state
  | .selecting .noAuth | .verdict true => some (d.enter (.request .version))
  | .selecting .userPass => some (d.enter (.credentials .version))
  | .selecting _ | .verdict false => some (d.enter .done)
  | .resolving request =>
      some (d.enter (.trying request
        (around.services.resolve request.address.host request.port).found .hostUnreachable))
  | .trying request [] last => some (d.refuse request (request.blames last))
  | .trying request (target :: rest) _ => some (d.attempt around.services request target rest)
  | .awaiting request rest (.failed why) => some (d.enter (.trying request rest why))
  | .awaiting request _ (.connected bound) =>
      some (d.say (.reply (.bound .success bound)) (.replying request .success))
  | .replying _ status => some (d.enter (if status.isSuccess then .relaying else .done))
  | .relaying | .failed _ | .done => none

def Reaches (around : Setting) : Dialogue → Dialogue → Prop :=
  Relation.ReflTransGen fun d next => d.advance around = some next

/-- One dialogue is another one, at least one step later. -/
def Leads (around : Setting) : Dialogue → Dialogue → Prop :=
  Relation.TransGen fun d next => d.advance around = some next

variable {around : Setting} {d next : Dialogue}

/-- To read octets one by one is to run the decoder on all of them. -/
theorem leads_run {σ α : Type} {again : σ → Stage} {complete : α → Dialogue → Dialogue}
    {decoder : Wire.Decoder σ α}
    (reads : ∀ state (x : Dialogue), x.stage = again state →
      x.advance around = x.read again complete around decoder state)
    {input beyond : Bytes} (some : input ≠ []) {state : σ} (stage : d.stage = again state)
    (ahead : d.ahead = input ++ beyond) {news : Wire.News α}
    (outcome : decoder.news (decoder.run state input).1 (decoder.run state input).2.1 =
      .some news) :
    ∃ stage, d.Leads around (digest again complete (decoder.run state input).1
      { d with stage, ahead := (decoder.run state input).2.2 ++ beyond } news) := by
  induction input generalizing d state with
  | nil => exact absurd rfl some
  | cons octet rest ih =>
      have step : ∀ {first}, decoder.news (decoder.feed state octet)
          (decoder.progress (decoder.feed state octet)) = .some first →
          d.advance around = .some (digest again complete (decoder.feed state octet)
            { d with ahead := rest ++ beyond } first) := by
        intro first heard
        rw [reads state d stage, read, ahead]
        simp only [List.cons_append, heard, Option.map_some]
      by_cases more : decoder.progress (decoder.feed state octet) = .needMore
      · have waits := step (Wire.Decoder.news_needMore.mpr more)
        rw [Wire.Decoder.run_of_more more] at outcome ⊢
        by_cases last : rest = []
        · subst last
          cases outcome
          exact ⟨d.stage, .single waits⟩
        · let middle := { d with ahead := rest ++ beyond }.enter
            (again (decoder.feed state octet))
          obtain ⟨stage, leads⟩ := ih (d := middle) last rfl rfl outcome
          exact ⟨stage, .head waits leads⟩
      · rw [Wire.Decoder.run_of_news more] at outcome ⊢
        exact ⟨d.stage, .single (step outcome)⟩

theorem leads_runOn {σ α : Type} {again : σ → Stage} {complete : α → Dialogue → Dialogue}
    {decoder : Wire.Decoder σ α}
    (reads : ∀ state (x : Dialogue), x.stage = again state →
      x.advance around = x.read again complete around decoder state)
    {b : Buffer} {beyond : Bytes} (waiting : b.held ≠ []) {state : σ}
    (stage : some (again state) = some d.stage) (ahead : d.ahead = b.held ++ beyond)
    {news : Wire.News α}
    (outcome : decoder.news (decoder.runOn state b).1 (decoder.runOn state b).2.1 = some news) :
    ∃ stage, d.Leads around (digest again complete (decoder.runOn state b).1
      { d with stage, ahead := (decoder.runOn state b).2.2.held ++ beyond } news) := by
  rw [Wire.Decoder.runOn_held]
  exact leads_run reads waiting (Option.some.inj stage).symm ahead outcome

theorem advance_greeting (acceptable : List Method) (state : Wire.Greeting.State) (x : Dialogue)
    (here : x.stage = .greeting acceptable state) :
    x.advance around = x.read (.greeting acceptable)
      (fun method d => d.say (.selection method) (.selecting method)) around
      (Wire.Greeting.decoder acceptable) state := by
  rw [advance, here]

theorem advance_credentials (state : Wire.Credentials.State) (x : Dialogue)
    (here : x.stage = .credentials state) :
    x.advance around =
      x.read .credentials (check around.services) around Wire.Credentials.decoder state := by
  rw [advance, here]

theorem advance_request (state : Wire.Request.State) (x : Dialogue)
    (here : x.stage = .request state) :
    x.advance around =
      x.read .request (serve around.services) around Wire.Request.decoder state := by
  rw [advance, here]

theorem eq_of_reaches {one other : Dialogue} (first : d.Reaches around one)
    (second : d.Reaches around other) (stops : one.advance around = none)
    (ends : other.advance around = none) : one = other := by
  have unique : Relator.RightUnique fun d next : Dialogue => d.advance around = some next := by
    intro d one other left right
    exact Option.some.inj (left.symm.trans right)
  have still : ∀ {d next : Dialogue}, d.advance around = none → d.Reaches around next →
      d = next := by
    intro d next stops reaches
    rcases Relation.ReflTransGen.cases_head reaches with same | ⟨middle, step, -⟩
    · exact same
    · rw [stops] at step
      cases step
  rcases Relation.ReflTransGen.total_of_right_unique unique first second with onward | onward
  · exact still stops onward
  · exact (still ends onward).symm

def rank (d : Dialogue) : Nat :=
  match d.stage with
  | .greeting _ _ => 0
  | .selecting _ => 1
  | .credentials _ => 2
  | .verdict _ => 3
  | .request _ => 4
  | .resolving _ => 5
  | .trying _ _ _ => 6
  | .awaiting _ _ _ => 6
  | .replying _ _ => 7
  | .relaying => 8
  | .failed _ => 9
  | .done => 9

def size (d : Dialogue) : Nat :=
  match d.stage with
  | .trying _ targets _ => 2 * targets.length
  | .awaiting _ rest _ => 2 * rest.length + 1
  | _ => d.ahead.length

/-- Later in the order of the stages, or at the same with less left to do. -/
def Later (d next : Dialogue) : Prop :=
  d.rank < next.rank ∨ d.rank = next.rank ∧ next.size < d.size

theorem rank_check (services : Services) (credentials : Wire.Credentials) (d : Dialogue) :
    3 ≤ (d.check services credentials).rank := by
  unfold check
  split <;> simp [enter, say, rank]

theorem rank_serve (services : Services) (request : Request) (d : Dialogue) :
    5 ≤ (d.serve services request).rank := by
  unfold serve
  split
  · split <;> simp [enter, refuse, say, rank]
  · simp [refuse, say, rank]

/-- To read is to have less ahead, or to come to a later stage. -/
theorem later_of_read {σ α : Type} {again : σ → Stage} {complete : α → Dialogue → Dialogue}
    {decoder : Wire.Decoder σ α} {state : σ}
    (stays : ∀ state x, (enter (again state) x).rank = d.rank ∧
      (enter (again state) x).size = x.ahead.length)
    (before : d.rank < 5) (here : d.size = d.ahead.length)
    (completes : ∀ message x, d.rank < (complete message x).rank)
    (step : d.read again complete around decoder state = some next) : d.Later next := by
  have fails : ∀ cause (x : Dialogue), d.Later (x.enter (.failed cause)) := fun cause x =>
    Or.inl (Nat.lt_trans before (by decide : 5 < 9))
  unfold read at step
  split at step <;> rename_i ahead
  · split at step
    · cases step
      exact fails _ _
    · cases step
  · rename_i octet rest
    obtain ⟨news, -, same⟩ := Option.map_eq_some_iff.mp step
    subst same
    cases news with
    | needMore =>
        obtain ⟨rank, size⟩ := stays (decoder.feed state octet) { d with ahead := rest }
        exact Or.inr ⟨rank.symm, by rw [digest, size, here, ahead]; exact Nat.lt_succ_self _⟩
    | failed fault => exact fails _ _
    | done message => exact Or.inl (completes _ _)

theorem later_of_advance (step : d.advance around = some next) : d.Later next := by
  obtain ⟨stage, ahead, told, user, lookups, attempts⟩ := d
  cases stage with
  | greeting acceptable state =>
      exact later_of_read (fun _ _ => ⟨rfl, rfl⟩) (by simp [rank]) rfl
        (fun _ _ => by simp [say, rank]) step
  | credentials state =>
      exact later_of_read (fun _ _ => ⟨rfl, rfl⟩) (by simp [rank]) rfl
        (fun message x => Nat.lt_of_succ_le (rank_check _ message x)) step
  | request state =>
      exact later_of_read (fun _ _ => ⟨rfl, rfl⟩) (by simp [rank]) rfl
        (fun message x => Nat.lt_of_succ_le (rank_serve _ message x)) step
  | selecting method =>
      left
      cases method <;> cases step <;> simp [enter, rank]
  | verdict accepted =>
      left
      cases accepted <;> cases step <;> simp [enter, rank]
  | resolving request =>
      cases step
      exact Or.inl (by simp [enter, rank])
  | trying request targets last =>
      cases targets with
      | nil =>
          cases step
          exact Or.inl (by simp [refuse, say, rank])
      | cons target rest =>
          cases step
          right
          unfold attempt
          split
          · exact ⟨rfl, by simp [enter, size]⟩
          · exact ⟨rfl, by simp [enter, size]; omega⟩
  | awaiting request rest outcome =>
      cases outcome with
      | failed why =>
          cases step
          exact Or.inr ⟨rfl, by simp [enter, size]⟩
      | connected bound =>
          cases step
          exact Or.inl (by simp [say, rank])
  | replying request status =>
      cases step
      left
      split <;> simp [enter, rank]
  | relaying => cases step
  | failed cause => cases step
  | done => cases step

theorem not_leads_self (d : Dialogue) : ¬ d.Leads around d := by
  have later : ∀ {next}, d.Leads around next → d.Later next := by
    intro next leads
    induction leads with
    | single step => exact later_of_advance step
    | tail earlier step ih =>
        have more := later_of_advance step
        unfold Later at ih more ⊢
        omega
  intro circle
  have more := later circle
  unfold Later at more
  omega

end Dialogue

end SocksProxy
