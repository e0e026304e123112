import WikiNext.Foundation.Transition

/-!
# Middleware

A service answers a call with a future that is polled until it is over. A layer
makes one service out of another. What a layer promises of every call is proved
once for whatever service it is put around, so a stack of layers is reasoned
about from the outside in.

§1 polls, §2 services and layers, §3 what is promised of every call, §4 the rules.
-/

namespace WikiNext.Foundation

/-! ## §1  Polls -/

/-- What one poll of a future comes to. -/
inductive Poll (α : Type) where
  | pending
  | ready (value : α)
  | panicked
deriving DecidableEq, Repr

namespace Poll

variable {α β : Type}

def map (f : α → β) : Poll α → Poll β
  | .pending => .pending
  | .ready value => .ready (f value)
  | .panicked => .panicked

@[simp] theorem map_pending (f : α → β) : map f .pending = .pending := rfl
@[simp] theorem map_ready (f : α → β) (value : α) : map f (.ready value) = .ready (f value) := rfl
@[simp] theorem map_panicked (f : α → β) : map f .panicked = .panicked := rfl

theorem map_eq_ready_iff {f : α → β} {poll : Poll α} {b : β} :
    poll.map f = .ready b ↔ ∃ a, poll = .ready a ∧ f a = b := by
  cases poll <;> simp

@[simp] theorem map_map {γ : Type} (f : α → β) (g : β → γ) (poll : Poll α) :
    (poll.map f).map g = poll.map (g ∘ f) := by
  cases poll <;> rfl

@[simp] theorem map_eq_panicked_iff {f : α → β} {poll : Poll α} :
    poll.map f = .panicked ↔ poll = .panicked := by
  cases poll <;> simp

@[simp] theorem map_eq_pending_iff {f : α → β} {poll : Poll α} :
    poll.map f = .pending ↔ poll = .pending := by
  cases poll <;> simp

/-- A panic is turned into a value. -/
def rescue (value : α) : Poll α → Poll α
  | .panicked => .ready value
  | poll => poll

theorem rescue_ne_panicked {value : α} {poll : Poll α} : poll.rescue value ≠ .panicked := by
  cases poll <;> simp [rescue]

theorem rescue_eq_pending_iff {value : α} {poll : Poll α} :
    poll.rescue value = .pending ↔ poll = .pending := by
  cases poll <;> simp [rescue]

theorem rescue_eq_ready_iff {value a : α} {poll : Poll α} :
    poll.rescue value = .ready a ↔ poll = .ready a ∨ poll = .panicked ∧ value = a := by
  cases poll <;> simp [rescue]

end Poll

/-- A future in one execution: what a poll at each moment comes to. -/
abbrev Future (α : Type) : Type := Instant → Poll α

/-- Poll a future at these moments, one after the other, until it is over. -/
def Future.drive {α : Type} (future : Future α) : List Instant → Poll α
  | [] => .pending
  | moment :: moments =>
      match future moment with
      | .pending => future.drive moments
      | outcome => outcome

theorem Future.drive_eq_pending_iff {α : Type} {future : Future α} {moments : List Instant} :
    future.drive moments = .pending ↔ ∀ moment ∈ moments, future moment = .pending := by
  induction moments with
  | nil => simp [drive]
  | cons moment moments ih =>
      simp only [drive, List.forall_mem_cons]
      cases h : future moment with
      | pending => simpa using ih
      | ready value => simp
      | panicked => simp

/-- What a driven future ends in is what one of its polls came to. -/
theorem Future.exists_poll_of_drive {α : Type} {future : Future α} {moments : List Instant}
    {outcome : Poll α} (h : future.drive moments = outcome) (houtcome : outcome ≠ .pending) :
    ∃ before moment after, moments = before ++ moment :: after ∧
      (∀ earlier ∈ before, future earlier = .pending) ∧ future moment = outcome := by
  induction moments with
  | nil => exact absurd h.symm houtcome
  | cons moment moments ih =>
      by_cases hpending : future moment = .pending
      · have hrest : future.drive moments = outcome := by
          simpa only [drive, hpending] using h
        obtain ⟨before, later, after, rfl, hbefore, hlater⟩ := ih hrest
        refine ⟨moment :: before, later, after, rfl, ?_, hlater⟩
        rintro earlier (_ | ⟨_, hearlier⟩)
        · exact hpending
        · exact hbefore earlier hearlier
      · refine ⟨[], moment, moments, rfl, by simp, ?_⟩
        rw [← h]
        simp only [drive]

theorem Future.drive_append {α : Type} {future : Future α} {before : List Instant}
    (h : ∀ moment ∈ before, future moment = .pending) (moments : List Instant) :
    future.drive (before ++ moments) = future.drive moments := by
  induction before with
  | nil => rfl
  | cons moment before ih =>
      rw [List.forall_mem_cons] at h
      simp only [List.cons_append, drive, h.1]
      exact ih h.2

theorem Future.drive_cons {α : Type} {future : Future α} {moment : Instant}
    {moments : List Instant} (h : future moment ≠ .pending) :
    future.drive (moment :: moments) = future moment := by
  simp only [drive]

/-! ## §2  Services and layers -/

/-- What a call starts: what is recorded at once, and the future of its answer. -/
structure Call (ε ρ : Type) where
  records : List ε
  future : Future ρ

/-- A service is called in some surroundings (`κ`: the time, fresh values) with
a request. -/
def Service (κ ι ε ρ : Type) : Type := κ → ι → Call ε ρ

def Layer (κ ι ε ρ : Type) : Type := Service κ ι ε ρ → Service κ ι ε ρ

variable {κ ι ε ρ : Type}

namespace Layer

/-- Rewrite the request before the inner service is called. -/
def mapRequest (f : κ → ι → ι) : Layer κ ι ε ρ := fun service surroundings request =>
  service surroundings (f surroundings request)

/-- Rewrite the answer, knowing the request the layer was called with. -/
def mapResponse (f : κ → ι → ρ → ρ) : Layer κ ι ε ρ := fun service surroundings request =>
  let call := service surroundings request
  { call with future := fun moment => (call.future moment).map (f surroundings request) }

/-- Record something of the request, and go on. -/
def recording (f : ι → ε) : Layer κ ι ε ρ := fun service surroundings request =>
  let call := service surroundings request
  { call with records := f request :: call.records }

/-- Answer a panic of the inner service. -/
def catching (response : ρ) : Layer κ ι ε ρ := fun service surroundings request =>
  let call := service surroundings request
  { call with future := fun moment => (call.future moment).rescue response }

/-- A stack of layers, the outermost first. -/
def stack (layers : List (Layer κ ι ε ρ)) : Layer κ ι ε ρ := fun service =>
  layers.foldr (fun layer inner => layer inner) service

@[simp] theorem stack_nil (service : Service κ ι ε ρ) : stack [] service = service := rfl

@[simp] theorem stack_cons (layer : Layer κ ι ε ρ) (layers : List (Layer κ ι ε ρ))
    (service : Service κ ι ε ρ) :
    stack (layer :: layers) service = layer (stack layers service) := rfl

theorem mapRequest_mapRequest (f f' : κ → ι → ι) (service : Service κ ι ε ρ) :
    mapRequest f (mapRequest f' service) =
      mapRequest (fun surroundings => f' surroundings ∘ f surroundings) service := rfl

theorem mapResponse_mapResponse (g g' : κ → ι → ρ → ρ) (service : Service κ ι ε ρ) :
    mapResponse g (mapResponse g' service) =
      mapResponse (fun surroundings request => g surroundings request ∘ g' surroundings request)
        service := by
  funext surroundings request
  simp only [mapResponse, Poll.map_map]

end Layer

/-! ## §3  What is promised of every call -/

namespace Service

/-- Every poll of every call is as promised. -/
def Polls (P : κ → ι → Instant → Poll ρ → Prop) (service : Service κ ι ε ρ) : Prop :=
  ∀ surroundings request moment,
    P surroundings request moment ((service surroundings request).future moment)

/-- Calls with requests of the same kind cannot be told apart. -/
def Blind (Same : ι → ι → Prop) (service : Service κ ι ε ρ) : Prop :=
  ∀ surroundings request request', Same request request' →
    service surroundings request = service surroundings request'

/-- Every call records this, and first. -/
def Records (entry : κ → ι → ε) (service : Service κ ι ε ρ) : Prop :=
  ∀ surroundings request, ∃ rest,
    (service surroundings request).records = entry surroundings request :: rest

/-! ## §4  The rules -/

variable {P Q : κ → ι → Instant → Poll ρ → Prop} {service : Service κ ι ε ρ} {f : κ → ι → ι}
  {g : κ → ι → ρ → ρ} {h : ι → ε} {entry : κ → ι → ε} {Same : ι → ι → Prop}
  {surroundings : κ} {request : ι}

theorem Polls.mapRequest (hservice : service.Polls P) :
    Polls (fun surroundings request => P surroundings (f surroundings request))
      (Layer.mapRequest f service) := by
  intro surroundings request moment
  exact hservice _ _ _

theorem Polls.mapResponse (hservice : service.Polls P)
    (hg : ∀ surroundings request moment poll, P surroundings request moment poll →
      Q surroundings request moment (poll.map (g surroundings request))) :
    Polls Q (Layer.mapResponse g service) := by
  intro surroundings request moment
  exact hg _ _ _ _ (hservice _ _ _)

theorem Polls.recording (hservice : service.Polls P) : Polls P (Layer.recording h service) :=
  hservice

theorem Polls.catching {caught : ρ} (hservice : service.Polls P)
    (hcaught : ∀ surroundings request moment poll, P surroundings request moment poll →
      Q surroundings request moment (poll.rescue caught)) :
    Polls Q (Layer.catching caught service) := by
  intro surroundings request moment
  exact hcaught _ _ _ _ (hservice _ _ _)

/-- A layer that forgets a difference between requests hides it from all that
is inside. -/
theorem blind_mapRequest (hf : ∀ surroundings request request', Same request request' →
    f surroundings request = f surroundings request') :
    Blind Same (Layer.mapRequest f service) := by
  intro surroundings request request' hsame
  show service _ _ = service _ _
  rw [hf surroundings request request' hsame]

theorem records_recording :
    Records (fun _ request => h request) (Layer.recording (κ := κ) h service) := by
  intro surroundings request
  exact ⟨_, rfl⟩

theorem Records.mapRequest (hservice : service.Records entry) :
    Records (fun surroundings request => entry surroundings (f surroundings request))
      (Layer.mapRequest f service) := by
  intro surroundings request
  exact hservice _ _

theorem Records.mapResponse (hservice : service.Records entry) :
    Records entry (Layer.mapResponse g service) := by
  intro surroundings request
  exact hservice _ _

/-- The poll that a driven call is over with, and those before it. -/
theorem Polls.of_drive (hservice : service.Polls P) {moments : List Instant} {outcome : Poll ρ}
    (hdrive : (service surroundings request).future.drive moments = outcome)
    (houtcome : outcome ≠ .pending) :
    ∃ before moment after, moments = before ++ moment :: after ∧
      (∀ earlier ∈ before, P surroundings request earlier .pending) ∧
        P surroundings request moment outcome := by
  obtain ⟨before, moment, after, rfl, hbefore, hmoment⟩ :=
    Future.exists_poll_of_drive hdrive houtcome
  refine ⟨before, moment, after, rfl, ?_, ?_⟩
  · intro earlier hearlier
    rw [← hbefore earlier hearlier]
    exact hservice _ _ _
  · rw [← hmoment]
    exact hservice _ _ _

end Service

end WikiNext.Foundation
