import Playtime.Proofs.Replication.Turns

namespace Playtime.Replication

variable {σ : Type} [Ledger σ]

def Event.OnLink : Event → Prop
  | .turn _ _ => True
  | .call _ => False

@[simp] theorem heardFrom_append (number : Nat) (first second : List Deed) :
    heardFrom number (first ++ second) = heardFrom number first ++ heardFrom number second := by
  simp [heardFrom]

@[simp] theorem credited_append (id : PlayerId) (first second : List Deed) :
    credited id (first ++ second) = credited id first + credited id second := by
  induction first with
  | nil => simp [credited]
  | cons deed first ih =>
    simp only [List.cons_append, credited, ih]
    omega

namespace Network

theorem step_turn (network : Network σ) (number : Nat) (link : Link) (turn : Turn)
    (found : network.links[number]? = some link) :
    network.step (.turn number turn) =
      ⟨(link.turn network.hub turn).2, network.links.set number (link.turn network.hub turn).1⟩ := by
  simp [step, found]

theorem step_missing (network : Network σ) (number : Nat) (turn : Turn) (missing : network.links[number]? = none) :
    network.step (.turn number turn) = network := by
  simp [step, missing]

theorem deed?_turn (network : Network σ) (number : Nat) (link : Link) (turn : Turn)
    (found : network.links[number]? = some link) :
    network.deed? (.turn number turn) = link.deed? number network.hub turn := by
  simp [deed?, found]

theorem links_step_same (network : Network σ) (number : Nat) (link : Link) (turn : Turn)
    (found : network.links[number]? = some link) :
    (network.step (.turn number turn)).links[number]? = some (link.turn network.hub turn).1 := by
  obtain ⟨inside, -⟩ := List.getElem?_eq_some_iff.mp found
  rw [step_turn network number link turn found]
  exact List.getElem?_set_self inside

theorem links_step_other (network : Network σ) (number other : Nat) (turn : Turn) (differs : other ≠ number) :
    (network.step (.turn other turn)).links[number]? = network.links[number]? := by
  cases found : network.links[other]? with
  | none => rw [step_missing network other turn found]
  | some link =>
    rw [step_turn network other link turn found]
    exact List.getElem?_set_ne differs

theorem step_cases (network : Network σ) (number : Nat) (turn : Turn) :
    ((network.step (.turn number turn)).hub = network.hub ∧ network.deed? (.turn number turn) = none) ∨
    ∃ now message, network.deed? (.turn number turn) = some (deedOf number network.hub now message) ∧
      (network.step (.turn number turn)).hub = (Hub.answer network.hub.1 network.hub.2 now message).2 := by
  cases found : network.links[number]? with
  | none =>
    left
    rw [step_missing network number turn found]
    simp [deed?, found]
  | some link =>
    rw [step_turn network number link turn found, deed?_turn network number link turn found]
    rcases link.turn_cases number network.hub turn with ⟨same, nothing⟩ | ⟨now, _, _, message, -, -, -, done, after⟩
    · exact .inl ⟨same, nothing⟩
    · exact .inr ⟨now, message, done, by rw [after]⟩

theorem link_deed? (network : Network σ) (number : Nat) (turn : Turn) (deed : Deed)
    (done : network.deed? (.turn number turn) = some deed) : deed.link = number := by
  rcases step_cases network number turn with ⟨-, nothing⟩ | ⟨now, message, happened, -⟩
  · rw [nothing] at done
    cases done
  · rw [happened] at done
    cases done
    rfl

theorem sent_step (network : Network σ) (number : Nat) (event : Event) (before : Link)
    (found : network.links[number]? = some before) (heard : before.dependent.isHeard = true) :
    ∃ after, (network.step event).links[number]? = some after ∧ after.dependent.isHeard = true ∧
      messages before.upward ++ network.sent number [event] =
        heardFrom number (network.deed? event).toList ++ messages after.upward := by
  cases event with
  | call call => exact ⟨before, found, heard, by simp [sent, deed?, heardFrom]⟩
  | turn other turn =>
    by_cases same : other = number
    · subst same
      have moved := links_step_same network other before turn found
      have sends := before.messages_turn other network.hub turn heard
      refine ⟨_, moved, (before.isHeard_turn network.hub turn).trans heard, ?_⟩
      have done := link_deed? network other turn
      rw [deed?_turn network other before turn found] at done ⊢
      cases deed : before.deed? other network.hub turn with
      | none =>
        rw [deed] at sends
        simpa [sent, found, heardFrom] using sends
      | some deed' =>
        rw [deed] at sends done
        simpa [sent, found, heardFrom, done deed' rfl] using sends
    · have kept := links_step_other network number other turn same
      refine ⟨before, kept.trans found, heard, ?_⟩
      have silent : heardFrom number (network.deed? (.turn other turn)).toList = [] := by
        cases deed : network.deed? (.turn other turn) with
        | none => rfl
        | some deed' => simp [heardFrom, link_deed? network other turn deed' deed, same]
      simp [sent, found, same, silent]

theorem sent_cons (network : Network σ) (number : Nat) (event : Event) (later : List Event) :
    network.sent number (event :: later) = network.sent number [event] ++ (network.step event).sent number later := by
  simp [sent]

theorem sent_run (network : Network σ) (number : Nat) (events : List Event) (before : Link)
    (found : network.links[number]? = some before) (heard : before.dependent.isHeard = true) :
    ∃ after, (network.run events).links[number]? = some after ∧ after.dependent.isHeard = true ∧
      messages before.upward ++ network.sent number events =
        heardFrom number (network.deeds events) ++ messages after.upward := by
  induction events generalizing network before with
  | nil => exact ⟨before, found, heard, by simp [sent, deeds, heardFrom]⟩
  | cons event later ih =>
    obtain ⟨middle, met, listens, first⟩ := sent_step network number event before found heard
    obtain ⟨after, reached, last, rest⟩ := ih (network.step event) middle met listens
    refine ⟨after, reached, last, ?_⟩
    rw [sent_cons, deeds, heardFrom_append, ← List.append_assoc, first, List.append_assoc, rest, List.append_assoc]

theorem sent_append (network : Network σ) (number : Nat) (first second : List Event) :
    network.sent number (first ++ second) = network.sent number first ++ (network.run first).sent number second := by
  induction first generalizing network with
  | nil => rfl
  | cons event first ih =>
    rw [List.cons_append, sent_cons, ih, sent_cons network number event first, List.append_assoc]
    rfl

theorem run_append (network : Network σ) (first second : List Event) :
    network.run (first ++ second) = (network.run first).run second := by
  induction first generalizing network with
  | nil => rfl
  | cons event first ih => exact ih _

theorem mem_sent_add (network : Network σ) (number : Nat) (events : List Event) (id : PlayerId) (delta : Int64)
    (member : ⟨id, .add delta⟩ ∈ network.sent number events) : .turn number (.add id delta) ∈ events := by
  induction events generalizing network with
  | nil => cases member
  | cons event later ih =>
    rw [sent_cons] at member
    rcases List.mem_append.mp member with first | rest
    · cases event with
      | call call => simp [sent] at first
      | turn other turn =>
        cases found : network.links[number]? with
        | none => simp [sent, found] at first
        | some link =>
          by_cases same : other = number
          · subst same
            simp only [sent, found, if_true, List.append_nil] at first
            cases turn with
            | add player amount =>
              simp only [Turn.sends, List.mem_singleton, Message.mk.injEq, Command.add.injEq] at first
              obtain ⟨rfl, rfl⟩ := first
              exact List.mem_cons_self
            | join player => simp [Turn.sends] at first
            | poll => simp [Turn.sends] at first
            | leave player => simp [Turn.sends] at first
            | ask now => simp [Turn.sends] at first
            | tell => simp [Turn.sends] at first
          · simp [sent, found, same] at first
    · exact List.mem_cons_of_mem _ (ih _ rest)

theorem sent_questions (network : Network σ) (number : Nat) (event : Event) (id player : PlayerId) (delta : Int64)
    (question : ⟨id, .get⟩ ∈ network.sent number [event]) :
    ⟨player, .add delta⟩ ∉ network.sent number [event] := by
  intro credit
  have only := mem_sent_add network number [event] player delta credit
  rw [List.mem_singleton] at only
  subst only
  cases found : network.links[number]? <;> simp [sent, found, Turn.sends] at question

theorem link_lt (network : Network σ) (event : Event) (deed : Deed) (done : network.deed? event = some deed) :
    deed.link < network.links.length := by
  cases event with
  | call call => cases done
  | turn number turn =>
    have same := link_deed? network number turn deed done
    cases found : network.links[number]? with
    | none => simp [deed?, found] at done
    | some link =>
      obtain ⟨inside, -⟩ := List.getElem?_eq_some_iff.mp found
      rwa [same]

theorem length_step (network : Network σ) (event : Event) :
    (network.step event).links.length = network.links.length := by
  cases event with
  | call call => rfl
  | turn number turn =>
    cases found : network.links[number]? with
    | none => rw [step_missing network number turn found]
    | some link =>
      rw [step_turn network number link turn found]
      exact List.length_set

theorem length_run (network : Network σ) (events : List Event) :
    (network.run events).links.length = network.links.length := by
  induction events generalizing network with
  | nil => rfl
  | cons event later ih => exact (ih _).trans (length_step network event)

theorem sent_opened (hub : Sessions × σ) (count number : Nat) (events : List Event) (link : Link)
    (reached : ((opened hub count).run events).links[number]? = some link) :
    link.dependent.isHeard = true ∧ (opened hub count).sent number events =
      heardFrom number ((opened hub count).deeds events) ++ messages link.upward := by
  obtain ⟨inside, -⟩ := List.getElem?_eq_some_iff.mp reached
  rw [length_run] at inside
  have fresh : (opened hub count).links[number]? = some (Link.opened (some 0)) := by
    simp only [opened, List.length_replicate] at inside ⊢
    exact List.getElem?_replicate_of_lt inside
  obtain ⟨after, found, heard, all⟩ := sent_run (opened hub count) number events _ fresh rfl
  rw [reached] at found
  cases found
  exact ⟨heard, all⟩

theorem links_deeds (network : Network σ) (events : List Event) :
    ∀ deed ∈ network.deeds events, deed.link < network.links.length := by
  induction events generalizing network with
  | nil => simp [deeds]
  | cons event later ih =>
    intro deed member
    rcases List.mem_append.mp member with first | rest
    · exact link_lt network event deed (Option.mem_toList.mp first)
    · rw [← length_step network event]
      exact ih _ deed rest

theorem deeds_split (network : Network σ) (events : List Event) (earlier later : List Deed) (deed : Deed)
    (split : network.deeds events = earlier ++ deed :: later) :
    ∃ first event second, events = first ++ event :: second ∧ (network.run first).deed? event = some deed ∧
      ((network.run first).step event).deeds second = later := by
  induction events generalizing network earlier with
  | nil => simp [deeds] at split
  | cons event rest ih =>
    rw [deeds] at split
    cases done : network.deed? event with
    | none =>
      rw [done] at split
      obtain ⟨first, at_, second, parts, found, others⟩ := ih (network.step event) earlier split
      exact ⟨event :: first, at_, second, by rw [parts]; rfl, found, others⟩
    | some head =>
      rw [done] at split
      cases earlier with
      | nil =>
        obtain ⟨rfl, same⟩ := List.cons.inj split
        exact ⟨[], event, rest, rfl, done, same⟩
      | cons before earlier =>
        obtain ⟨-, same⟩ := List.cons.inj split
        obtain ⟨first, at_, second, parts, found, others⟩ := ih (network.step event) earlier same
        exact ⟨event :: first, at_, second, by rw [parts]; rfl, found, others⟩

variable [LawfulLedger σ]

theorem idle_step (network : Network σ) (event : Event) (id : PlayerId) (onLink : event.OnLink)
    (idle : Idle id network.hub) : Idle id (network.step event).hub := by
  cases event with
  | call call => cases onLink
  | turn number turn =>
    rcases step_cases network number turn with ⟨same, -⟩ | ⟨now, message, -, after⟩
    · rwa [same]
    · rw [after]
      exact idle.answer now message

theorem idle_run (network : Network σ) (events : List Event) (id : PlayerId)
    (onLinks : ∀ event ∈ events, event.OnLink) (idle : Idle id network.hub) : Idle id (network.run events).hub := by
  induction events generalizing network with
  | nil => exact idle
  | cons event later ih =>
    have next := idle_step network event id (onLinks event (by simp)) idle
    exact ih _ (fun other member => onLinks other (List.mem_cons_of_mem _ member)) next

theorem saved_step (network : Network σ) (event : Event) (id : PlayerId) (onLink : event.OnLink)
    (idle : Idle id network.hub) :
    Sessions.saved (network.step event).hub id =
      Sessions.saved network.hub id + credited id (network.deed? event).toList := by
  cases event with
  | call call => cases onLink
  | turn number turn =>
    rcases step_cases network number turn with ⟨same, nothing⟩ | ⟨now, message, done, after⟩
    · rw [same, nothing]
      simp [credited]
    · rw [after, done, saved_answer number network.hub now message id idle.sound idle.closed]
      simp [credited]

/-- Every credit that a dependent has sent and the hub has accepted is counted, and it is counted once. -/
theorem saved_run (network : Network σ) (events : List Event) (id : PlayerId)
    (onLinks : ∀ event ∈ events, event.OnLink) (idle : Idle id network.hub) :
    Sessions.saved (network.run events).hub id =
      Sessions.saved network.hub id + credited id (network.deeds events) := by
  induction events generalizing network with
  | nil => exact (Int.add_zero _).symm
  | cons event later ih =>
    have onLink := onLinks event (by simp)
    have first := saved_step network event id onLink idle
    have rest := ih (network.step event) (fun other member => onLinks other (List.mem_cons_of_mem _ member))
      (idle_step network event id onLink idle)
    rw [deeds, credited_append]
    show Sessions.saved ((network.step event).run later).hub id = _
    omega

end Network

end Playtime.Replication
