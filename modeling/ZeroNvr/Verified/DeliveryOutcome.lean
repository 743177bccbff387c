import ZeroNvr.Lib.Run
import ZeroNvr.Notifications.Delivery

/-! # The outcome of a delivery

The transaction that ends an attempt writes what that attempt has seen, whatever the
row says by then.  Where an attempt only sends and ends while the row is still its own,
a delivery that was sent stays sent, one that was skipped stays skipped, and one that
has failed was never sent.
-/

namespace ZeroNvr.DeliveryOutcome

open Lib NotificationDeliveryService

variable {env : NotificationEnv} {deliveryId : Uuid} {db db' : Database} {now : Int}

/-! ## Attempts -/

/-- Where an execution is; from its preparation on it has the number of its attempt. -/
inductive AttemptPhase where
  | idle
  | prepared (plan : NotificationPlan) (attempt : Nat)
  | addressed (plan : NotificationPlan) (addressed : Addressed) (attempt : Nat)
  /-- The adapter has sent it. -/
  | sent (attempt : Nat)
  | failing (error : IntegrationError) (attempt : Nat)
  | finished (result : NotificationResult)
  | raised

def AttemptPhase.attempt : AttemptPhase → Option Nat
  | prepared _ attempt | addressed _ _ attempt | sent attempt | failing _ attempt => some attempt
  | _ => none

/-- The attempt has not been sent. -/
def AttemptPhase.unsent : AttemptPhase → Option Nat
  | prepared _ attempt | addressed _ _ attempt | failing _ attempt => some attempt
  | _ => none

/-- The database, the executions, and the attempts that were sent. -/
structure DeliveryWorld where
  db : Database
  clock : Int
  phase : Nat → AttemptPhase := fun _ => .idle
  sends : List Nat := []

namespace DeliveryWorld

def row (deliveryId : Uuid) (world : DeliveryWorld) : Option NotificationDelivery := world.db.deliveries.get? deliveryId

def entering (world : DeliveryWorld) (execution : Nat) (now : Int) (phase : AttemptPhase) : DeliveryWorld :=
  { world with clock := now, phase := Function.update world.phase execution phase }

end DeliveryWorld

open DeliveryWorld

inductive DeliveryAction where
  | prepare (execution : Nat)
  | address (execution : Nat)
  | sendSucceeds (execution : Nat)
  | sendFails (execution : Nat)
  | mark (execution : Nat)
  | die (execution : Nat)
  | elsewhere

/-- The number of the attempt that the row counts last. -/
def attemptOf (db : Database) (deliveryId : Uuid) : Nat :=
  ((db.deliveries.get? deliveryId).map NotificationDelivery.attemptCount).getD 0

/-- An execution of the delivery takes one step after the other; in between, anything but this delivery may
    change. -/
inductive DeliveryStep (env : NotificationEnv) (deliveryId : Uuid) : DeliveryWorld → DeliveryAction → DeliveryWorld → Prop
  | planned {world : DeliveryWorld} {execution : Nat} {now : Int} {db : Database} {plan : NotificationPlan} :
      world.clock ≤ now → world.phase execution = .idle →
      prepare env world.db deliveryId now = .ok (db, .plan plan) →
      DeliveryStep env deliveryId world (.prepare execution)
        { entering world execution now (.prepared plan (attemptOf db deliveryId)) with db }
  | ended {world : DeliveryWorld} {execution : Nat} {now : Int} {db : Database} {result : NotificationResult} :
      world.clock ≤ now → world.phase execution = .idle →
      prepare env world.db deliveryId now = .ok (db, .result result) →
      DeliveryStep env deliveryId world (.prepare execution) { entering world execution now (.finished result) with db }
  | refused {world : DeliveryWorld} {execution : Nat} {now : Int} {failure : PyError} :
      world.clock ≤ now → world.phase execution = .idle → prepare env world.db deliveryId now = .error failure →
      DeliveryStep env deliveryId world (.prepare execution) (entering world execution now .raised)
  | addressed {world : DeliveryWorld} {execution attempt : Nat} {now : Int} {plan : NotificationPlan}
      {addressed : Addressed} : world.clock ≤ now → world.phase execution = .prepared plan attempt →
      address env world.db plan = .ok addressed →
      DeliveryStep env deliveryId world (.address execution)
        (entering world execution now (.addressed plan addressed attempt))
  | unaddressed {world : DeliveryWorld} {execution attempt : Nat} {now : Int} {plan : NotificationPlan}
      {error : ApiError} : world.clock ≤ now → world.phase execution = .prepared plan attempt →
      address env world.db plan = .error (.api error) →
      DeliveryStep env deliveryId world (.address execution)
        (entering world execution now (.failing ⟨error.code, "permanent"⟩ attempt))
  | sendSucceeds {world : DeliveryWorld} {execution attempt : Nat} {now : Int} {plan : NotificationPlan}
      {addressed : Addressed} : world.clock ≤ now → world.phase execution = .addressed plan addressed attempt →
      unsendable plan addressed = none →
      DeliveryStep env deliveryId world (.sendSucceeds execution)
        { entering world execution now (.sent attempt) with sends := attempt :: world.sends }
  | sendFails {world : DeliveryWorld} {execution attempt : Nat} {now : Int} {plan : NotificationPlan}
      {addressed : Addressed} {error : IntegrationError} : world.clock ≤ now →
      world.phase execution = .addressed plan addressed attempt →
      (∀ refusal, unsendable plan addressed = some refusal → error = refusal) →
      DeliveryStep env deliveryId world (.sendFails execution) (entering world execution now (.failing error attempt))
  | markedSent {world : DeliveryWorld} {execution attempt : Nat} {now : Int} {db : Database} : world.clock ≤ now →
      world.phase execution = .sent attempt → markSent world.db deliveryId now = .ok db →
      DeliveryStep env deliveryId world (.mark execution)
        { entering world execution now (.finished ⟨deliveryId, .sent, true⟩) with db }
  /-- A permanent error is a result; any other is raised for another execution. -/
  | markedFailed {world : DeliveryWorld} {execution attempt : Nat} {now : Int} {error : IntegrationError} :
      world.clock ≤ now → world.phase execution = .failing error attempt →
      DeliveryStep env deliveryId world (.mark execution)
        { entering world execution now
            (if error.category = "permanent" then .finished ⟨deliveryId, .failed, false⟩ else .raised) with
          db := markFailed world.db deliveryId error.code now }
  | die {world : DeliveryWorld} {execution : Nat} {now : Int} : world.clock ≤ now →
      DeliveryStep env deliveryId world (.die execution) (entering world execution now .raised)
  | elsewhere {world : DeliveryWorld} {db : Database} {now : Int} : world.clock ≤ now →
      db.deliveries.get? deliveryId = world.db.deliveries.get? deliveryId →
      DeliveryStep env deliveryId world .elsewhere { world with db, clock := now }

/-- The row is as the preparation of the attempt has left it. -/
def Owns (deliveryId : Uuid) (world : DeliveryWorld) (attempt : Nat) : Prop :=
  ∃ delivery, world.row deliveryId = some delivery ∧ delivery.state = .sending ∧ delivery.attemptCount = attempt

/-- A preparation finds every attempt that was sent written down; an attempt is sent and ends while the row is its
    own. -/
structure MeetsRow (deliveryId : Uuid) (world : DeliveryWorld) (action : DeliveryAction) : Prop where
  prepare : ∀ execution, action = .prepare execution → world.sends ≠ [] →
    ∀ delivery, world.row deliveryId = some delivery → delivery.state = .sent
  ends : ∀ execution attempt, action = .sendSucceeds execution ∨ action = .mark execution →
    (world.phase execution).attempt = some attempt → Owns deliveryId world attempt

def MeetingStep (env : NotificationEnv) (deliveryId : Uuid) (world : DeliveryWorld) (action : DeliveryAction)
    (world' : DeliveryWorld) : Prop :=
  DeliveryStep env deliveryId world action world' ∧ MeetsRow deliveryId world action

/-! ## The transactions -/

/-- A preparation leaves a delivery that was sent or skipped; any other it ends, or takes into an attempt. -/
inductive PrepareOutcome (deliveryId : Uuid) (db : Database) (now : Int) (db' : Database) (prepared : NotificationDeliveryService.Prepared) :
    Prop
  | settled (delivery : NotificationDelivery) : db.deliveries.get? deliveryId = some delivery → db' = db →
      (∃ result, prepared = .result result) → PrepareOutcome deliveryId db now db' prepared
  | ends (delivery delivery' : NotificationDelivery) : db.deliveries.get? deliveryId = some delivery →
      delivery.state ≠ .sent → delivery.state ≠ .skipped → db'.deliveries.get? deliveryId = some delivery' →
      delivery'.state = .failed ∨ delivery'.state = .skipped → delivery'.attemptCount = delivery.attemptCount →
      (∃ result, prepared = .result result) → PrepareOutcome deliveryId db now db' prepared
  | plans (delivery : NotificationDelivery) : db.deliveries.get? deliveryId = some delivery →
      delivery.state ≠ .sent → delivery.state ≠ .skipped →
      db'.deliveries.get? deliveryId = some (sending delivery now) →
      (∃ plan, prepared = .plan plan) → PrepareOutcome deliveryId db now db' prepared

theorem prepare_cases {prepared : NotificationDeliveryService.Prepared}
    (done : prepare env db deliveryId now = .ok (db', prepared)) :
    PrepareOutcome deliveryId db now db' prepared := by
  unfold prepare at done
  split at done
  · cases done
  next delivery isDelivery =>
    have ended (state : DeliveryState) (code : String) :
        (db.deliveries.modify deliveryId fun delivery => ending delivery state code now).get? deliveryId =
          some (ending delivery state code now) := Table.get?_modify_self isDelivery _ _
    have planned : (db.deliveries.modify deliveryId fun delivery => sending delivery now).get? deliveryId =
        some (sending delivery now) := Table.get?_modify_self isDelivery _ _
    dsimp only at done
    split at done
    · cases done
      exact .settled delivery isDelivery rfl ⟨_, rfl⟩
    next notSent =>
      split at done
      · cases done
        exact .settled delivery isDelivery rfl ⟨_, rfl⟩
      next notSkipped =>
        split at done
        · cases done
          exact .ends delivery _ isDelivery notSent notSkipped (ended .skipped _) (.inr rfl) rfl ⟨_, rfl⟩
        · split at done
          · cases done
          split at done
          · cases done
            exact .ends delivery _ isDelivery notSent notSkipped (ended .failed _) (.inl rfl) rfl ⟨_, rfl⟩
          split at done
          · cases done
            exact .plans delivery isDelivery notSent notSkipped planned ⟨_, rfl⟩
          · cases done
            exact .ends delivery _ isDelivery notSent notSkipped (ended .failed _) (.inl rfl) rfl ⟨_, rfl⟩
          · cases done

/-! ## The invariant -/

/-- The row counts the attempts, and the last of them is the one that was sent, if any was. -/
structure Faithful (deliveryId : Uuid) (world : DeliveryWorld) (delivery : NotificationDelivery) : Prop where
  row : world.row deliveryId = some delivery
  sentAt : delivery.state = .sent → delivery.sentAt.isSome = true
  sends : world.sends ≠ [] → delivery.state = .sent ∨
    (delivery.state = .sending ∧ delivery.attemptCount ∈ world.sends)
  counted : ∀ execution attempt, (world.phase execution).attempt = some attempt → attempt ≤ delivery.attemptCount
  sendsCounted : ∀ attempt ∈ world.sends, attempt ≤ delivery.attemptCount
  unsent : ∀ execution attempt, (world.phase execution).unsent = some attempt → attempt ∉ world.sends
  apart : ∀ one other attempt, (world.phase one).attempt = some attempt → (world.phase other).attempt = some attempt →
    one = other

variable {world world' : DeliveryWorld} {execution : Nat} {delivery : NotificationDelivery} {phase : AttemptPhase}

theorem unsent_attempt {attempt : Nat} (unsent : phase.unsent = some attempt) : phase.attempt = some attempt := by
  cases phase with
  | prepared | addressed | failing => exact unsent
  | idle | sent | finished | raised => cases unsent

theorem entering_attempt {other attempt : Nat}
    (isAttempt : ((entering world execution now phase).phase other).attempt = some attempt) :
    (other = execution ∧ phase.attempt = some attempt) ∨ (other ≠ execution ∧ (world.phase other).attempt = some attempt) := by
  by_cases same : other = execution
  · subst same
    left
    have entered : (entering world other now phase).phase other = phase := Function.update_self _ _ _
    rw [entered] at isAttempt
    exact ⟨rfl, isAttempt⟩
  · right
    have kept : (entering world execution now phase).phase other = world.phase other := Function.update_of_ne same _ _
    rw [kept] at isAttempt
    exact ⟨same, isAttempt⟩

theorem entering_unsent {other attempt : Nat}
    (isAttempt : ((entering world execution now phase).phase other).unsent = some attempt) :
    (other = execution ∧ phase.unsent = some attempt) ∨ (other ≠ execution ∧ (world.phase other).unsent = some attempt) := by
  by_cases same : other = execution
  · subst same
    left
    have entered : (entering world other now phase).phase other = phase := Function.update_self _ _ _
    rw [entered] at isAttempt
    exact ⟨rfl, isAttempt⟩
  · right
    have kept : (entering world execution now phase).phase other = world.phase other := Function.update_of_ne same _ _
    rw [kept] at isAttempt
    exact ⟨same, isAttempt⟩

/-- An execution goes on in its attempt, or ends. -/
theorem Faithful.goes_on (faithful : Faithful deliveryId world delivery)
    (attempt : ∀ attempt, phase.attempt = some attempt → (world.phase execution).attempt = some attempt)
    (unsent : ∀ attempt, phase.unsent = some attempt → (world.phase execution).unsent = some attempt) :
    Faithful deliveryId (entering world execution now phase) delivery := by
  have was {other number : Nat}
      (isAttempt : ((entering world execution now phase).phase other).attempt = some number) :
      (world.phase other).attempt = some number := by
    rcases entering_attempt isAttempt with ⟨rfl, isNew⟩ | ⟨_, old⟩
    · exact attempt number isNew
    · exact old
  refine ⟨faithful.row, faithful.sentAt, faithful.sends, fun other number isAttempt => ?_, faithful.sendsCounted,
    fun other number isUnsent => ?_, fun one other number first second => ?_⟩
  · exact faithful.counted other number (was isAttempt)
  · rcases entering_unsent isUnsent with ⟨rfl, isNew⟩ | ⟨_, old⟩
    · exact faithful.unsent other number (unsent number isNew)
    · exact faithful.unsent other number old
  · exact faithful.apart one other number (was first) (was second)

/-- The row is rewritten where nothing was sent, or where it says that it was. -/
theorem Faithful.rewritten (faithful : Faithful deliveryId world delivery) {delivery' : NotificationDelivery}
    (isRow : db'.deliveries.get? deliveryId = some delivery') (count : delivery.attemptCount ≤ delivery'.attemptCount)
    (sentAt : delivery'.state = .sent → delivery'.sentAt.isSome = true)
    (sends : world.sends ≠ [] → delivery'.state = .sent) : Faithful deliveryId { world with db := db' } delivery' :=
  ⟨isRow, sentAt, fun wasSent => .inl (sends wasSent),
    fun other number isAttempt => (faithful.counted other number isAttempt).trans count,
    fun number member => (faithful.sendsCounted number member).trans count, faithful.unsent, faithful.apart⟩

/-- The sent and the skipped row stay as they are. -/
def Settled (delivery delivery' : NotificationDelivery) : Prop :=
  delivery.state = .sent ∨ delivery.state = .skipped → delivery' = delivery

theorem Faithful.prepared (faithful : Faithful deliveryId world delivery) (meets : world.sends ≠ [] → delivery.state = .sent)
    {prepared : NotificationDeliveryService.Prepared} (done : prepare env world.db deliveryId now = .ok (db', prepared)) :
    ∃ delivery', Faithful deliveryId { world with db := db' } delivery' ∧ Settled delivery delivery' ∧
      ∀ plan, prepared = .plan plan → world.sends = [] ∧ attemptOf db' deliveryId = delivery'.attemptCount ∧
        delivery.attemptCount < delivery'.attemptCount := by
  have isRow := faithful.row
  cases prepare_cases done with
  | settled found isFound same isResult =>
    rw [same]
    refine ⟨delivery, faithful, fun _ => rfl, fun plan isPlan => ?_⟩
    obtain ⟨result, rfl⟩ := isResult
    cases isPlan
  | ends found found' isFound notSent notSkipped isNew ended count isResult =>
    obtain rfl : found = delivery := Option.some.inj (isFound.symm.trans isRow)
    refine ⟨found', faithful.rewritten isNew count.ge (fun isSent => ?_) (fun wasSent => absurd (meets wasSent) notSent),
      fun settled => ?_, fun plan isPlan => ?_⟩
    · rw [isSent] at ended
      rcases ended with isFailed | isSkipped
      · cases isFailed
      · cases isSkipped
    · rcases settled with isSent | isSkipped
      · exact absurd isSent notSent
      · exact absurd isSkipped notSkipped
    · obtain ⟨result, rfl⟩ := isResult
      cases isPlan
  | plans found isFound notSent notSkipped isNew isPlan =>
    obtain rfl : found = delivery := Option.some.inj (isFound.symm.trans isRow)
    refine ⟨sending found now, faithful.rewritten isNew (Nat.le_succ _) (fun isSent => by cases isSent)
      (fun wasSent => absurd (meets wasSent) notSent), fun settled => ?_, fun plan _ => ⟨?_, ?_, Nat.lt_succ_self _⟩⟩
    · rcases settled with isSent | isSkipped
      · exact absurd isSent notSent
      · exact absurd isSkipped notSkipped
    · by_contra wasSent
      exact notSent (meets wasSent)
    · unfold attemptOf
      rw [isNew]
      rfl

/-- An execution takes up a new attempt. -/
theorem Faithful.planned (faithful : Faithful deliveryId world delivery) {attempt : Nat}
    (none_sent : world.sends = []) (last : attempt = delivery.attemptCount)
    (new : ∀ other number, (world.phase other).attempt = some number → number < attempt) {plan : NotificationPlan} :
    Faithful deliveryId (entering world execution now (.prepared plan attempt)) delivery := by
  refine ⟨faithful.row, faithful.sentAt, faithful.sends, fun other number isAttempt => ?_, faithful.sendsCounted,
    fun other number _ member => ?_, fun one other number first second => ?_⟩
  · rcases entering_attempt isAttempt with ⟨_, isNew⟩ | ⟨_, old⟩
    · cases isNew
      exact last.le
    · exact faithful.counted other number old
  · change number ∈ world.sends at member
    rw [none_sent] at member
    cases member
  · rcases entering_attempt first with ⟨isOne, isNew⟩ | ⟨_, old⟩
    · rcases entering_attempt second with ⟨isOther, _⟩ | ⟨_, otherOld⟩
      · exact isOne.trans isOther.symm
      · cases isNew
        exact absurd (new other attempt otherOld) (lt_irrefl _)
    · rcases entering_attempt second with ⟨_, isNew⟩ | ⟨_, otherOld⟩
      · cases isNew
        exact absurd (new one attempt old) (lt_irrefl _)
      · exact faithful.apart one other number old otherOld

theorem Owns.row_eq {attempt : Nat} (owns : Owns deliveryId world attempt) (isRow : world.row deliveryId = some delivery) :
    delivery.state = .sending ∧ delivery.attemptCount = attempt := by
  obtain ⟨found, isFound, isSending, count⟩ := owns
  rw [isRow] at isFound
  cases isFound
  exact ⟨isSending, count⟩

theorem not_settled (isSending : delivery.state = .sending) (delivery' : NotificationDelivery) :
    Settled delivery delivery' := by
  intro settled
  rw [isSending] at settled
  rcases settled with isSent | isSkipped
  · cases isSent
  · cases isSkipped

theorem Faithful.sent (faithful : Faithful deliveryId world delivery) {plan : NotificationPlan} {addressed : Addressed}
    {attempt : Nat} (isPhase : world.phase execution = .addressed plan addressed attempt)
    (owns : Owns deliveryId world attempt) :
    Faithful deliveryId { entering world execution now (.sent attempt) with sends := attempt :: world.sends } delivery := by
  obtain ⟨isSending, count⟩ := owns.row_eq faithful.row
  have goes_on : Faithful deliveryId (entering world execution now (.sent attempt)) delivery := by
    refine faithful.goes_on (fun number isAttempt => ?_) fun number none => by cases none
    rw [isPhase]
    exact isAttempt
  refine ⟨faithful.row, faithful.sentAt, fun _ => .inr ⟨isSending, ?_⟩, goes_on.counted, fun number member => ?_,
    fun other number isUnsent member => ?_, goes_on.apart⟩
  · rw [count]
    exact List.mem_cons_self
  · rcases List.mem_cons.mp member with rfl | old
    · exact count.ge
    · exact faithful.sendsCounted number old
  · change ((entering world execution now (.sent attempt)).phase other).unsent = some number at isUnsent
    rcases List.mem_cons.mp member with rfl | old
    · have isItself : ((entering world execution now (.sent number)).phase execution).attempt = some number := by
        have entered : (entering world execution now (.sent number)).phase execution = .sent number :=
          Function.update_self _ _ _
        rw [entered]
        rfl
      obtain rfl := goes_on.apart other execution number (unsent_attempt isUnsent) isItself
      rcases entering_unsent isUnsent with ⟨_, isNew⟩ | ⟨differs, _⟩
      · cases isNew
      · exact differs rfl
    · exact goes_on.unsent other number isUnsent old

theorem Faithful.step {action : DeliveryAction} (faithful : Faithful deliveryId world delivery)
    (step : MeetingStep env deliveryId world action world') :
    ∃ delivery', Faithful deliveryId world' delivery' ∧ Settled delivery delivery' := by
  obtain ⟨step, meets⟩ := step
  have prepares (execution : Nat) (isPrepare : action = .prepare execution) (wasSent : world.sends ≠ []) :
      delivery.state = .sent := meets.prepare execution isPrepare wasSent delivery faithful.row
  cases step with
  | @planned execution now db plan _ isIdle done =>
    obtain ⟨delivery', rewritten, settled, isPlan⟩ := faithful.prepared (prepares execution rfl) done
    obtain ⟨none_sent, count, more⟩ := isPlan plan rfl
    refine ⟨delivery', ?_, settled⟩
    refine rewritten.planned none_sent count fun other number isAttempt => ?_
    rw [count]
    exact (faithful.counted other number isAttempt).trans_lt more
  | @ended execution now db result _ isIdle done =>
    obtain ⟨delivery', rewritten, settled, _⟩ := faithful.prepared (prepares execution rfl) done
    exact ⟨delivery', rewritten.goes_on (fun _ => nofun) fun _ => nofun, settled⟩
  | refused => exact ⟨delivery, faithful.goes_on (fun _ => nofun) fun _ => nofun, fun _ => rfl⟩
  | addressed _ isPhase =>
    refine ⟨delivery, faithful.goes_on (fun number isAttempt => ?_) fun number isUnsent => ?_, fun _ => rfl⟩
    · rw [isPhase]
      exact isAttempt
    · rw [isPhase]
      exact isUnsent
  | unaddressed _ isPhase =>
    refine ⟨delivery, faithful.goes_on (fun number isAttempt => ?_) fun number isUnsent => ?_, fun _ => rfl⟩
    · rw [isPhase]
      exact isAttempt
    · rw [isPhase]
      exact isUnsent
  | @sendSucceeds execution attempt now plan addressed _ isPhase =>
    have owns := meets.ends execution attempt (.inl rfl) (by rw [isPhase]; rfl)
    exact ⟨delivery, faithful.sent isPhase owns, fun _ => rfl⟩
  | sendFails _ isPhase =>
    refine ⟨delivery, faithful.goes_on (fun number isAttempt => ?_) fun number isUnsent => ?_, fun _ => rfl⟩
    · rw [isPhase]
      exact isAttempt
    · rw [isPhase]
      exact isUnsent
  | @markedSent execution attempt now db _ isPhase done =>
    obtain ⟨isSending, _⟩ := (meets.ends execution attempt (.inr rfl) (by rw [isPhase]; rfl)).row_eq faithful.row
    have isRow : world.db.deliveries.get? deliveryId = some delivery := faithful.row
    unfold markSent at done
    rw [isRow] at done
    cases done
    have marked : (world.db.deliveries.modify deliveryId fun delivery => sentNow delivery now).get? deliveryId =
        some (sentNow delivery now) := Table.get?_modify_self isRow _ _
    have rewritten : Faithful deliveryId { world with db := { world.db with
        deliveries := world.db.deliveries.modify deliveryId fun delivery => sentNow delivery now } }
        (sentNow delivery now) :=
      faithful.rewritten marked (le_refl _) (fun _ => rfl) fun _ => rfl
    exact ⟨_, rewritten.goes_on (fun _ => nofun) fun _ => nofun, not_settled isSending _⟩
  | @markedFailed execution attempt now error _ isPhase =>
    obtain ⟨isSending, count⟩ := (meets.ends execution attempt (.inr rfl) (by rw [isPhase]; rfl)).row_eq faithful.row
    have marked : (markFailed world.db deliveryId error.code now).deliveries.get? deliveryId =
        some (ending delivery .failed error.code now) :=
      Table.get?_modify_self faithful.row (fun delivery => ending delivery .failed error.code now) fun _ => rfl
    have none_sent : world.sends = [] := by
      by_contra wasSent
      rcases faithful.sends wasSent with isSent | ⟨_, member⟩
      · rw [isSent] at isSending
        cases isSending
      · rw [count] at member
        exact faithful.unsent execution attempt (by rw [isPhase]; rfl) member
    have rewritten : Faithful deliveryId { world with db := markFailed world.db deliveryId error.code now } _ :=
      faithful.rewritten marked (le_refl _) (fun isSent => by cases isSent) fun wasSent => absurd none_sent wasSent
    refine ⟨_, rewritten.goes_on (fun number isAttempt => ?_) fun number isUnsent => ?_, not_settled isSending _⟩
    · split at isAttempt <;> cases isAttempt
    · split at isUnsent <;> cases isUnsent
  | die => exact ⟨delivery, faithful.goes_on (fun _ => nofun) fun _ => nofun, fun _ => rfl⟩
  | elsewhere _ same =>
    exact ⟨delivery, ⟨same.trans faithful.row, faithful.sentAt, faithful.sends, faithful.counted, faithful.sendsCounted,
      faithful.unsent, faithful.apart⟩, fun _ => rfl⟩

theorem Faithful.run {actions : List DeliveryAction} (faithful : Faithful deliveryId world delivery)
    (run : Run (MeetingStep env deliveryId) world actions world') :
    ∃ delivery', Faithful deliveryId world' delivery' ∧ Settled delivery delivery' := by
  refine @Run.invariant _ _ _ (fun world => ∃ delivery', Faithful deliveryId world delivery' ∧ Settled delivery delivery')
    (fun one action other invariant step => ?_) _ _ _ run ⟨delivery, faithful, fun _ => rfl⟩
  obtain ⟨middle, middleFaithful, first⟩ := invariant
  obtain ⟨last, lastFaithful, second⟩ := middleFaithful.step step
  refine ⟨last, lastFaithful, fun settled => ?_⟩
  have same := first settled
  rw [second (by rw [same]; exact settled), same]

/-- Where attempts are sent and end while the row is their own, a delivery that was sent stays sent, one that was
    skipped stays skipped, and one that has failed was never sent. -/
theorem outcome_stays {start world world' : DeliveryWorld} {actions actions' : List DeliveryAction}
    {created : NotificationDelivery} (isCreated : start.row deliveryId = some created)
    (isPending : created.state = .pending) (idle : ∀ execution, start.phase execution = .idle)
    (unsent : start.sends = []) (first : Run (MeetingStep env deliveryId) start actions world)
    (later : Run (MeetingStep env deliveryId) world actions' world') :
    ∃ delivery, world.row deliveryId = some delivery ∧
      (delivery.state = .sent → delivery.sentAt.isSome = true ∧ world'.row deliveryId = some delivery) ∧
      (delivery.state = .skipped → world'.row deliveryId = some delivery) ∧
      (delivery.state = .failed → world.sends = []) := by
  have faithful : Faithful deliveryId start created := by
    refine ⟨isCreated, fun isSent => ?_, fun wasSent => absurd unsent wasSent, fun execution attempt isAttempt => ?_,
      fun attempt member => ?_, fun execution attempt isUnsent => ?_, fun one other attempt isAttempt => ?_⟩
    · rw [isPending] at isSent
      cases isSent
    · rw [idle] at isAttempt
      cases isAttempt
    · rw [unsent] at member
      cases member
    · rw [idle] at isUnsent
      cases isUnsent
    · rw [idle] at isAttempt
      cases isAttempt
  obtain ⟨delivery, reached, _⟩ := faithful.run first
  obtain ⟨delivery', last, settled⟩ := reached.run later
  refine ⟨delivery, reached.row, fun isSent => ⟨reached.sentAt isSent, ?_⟩, fun isSkipped => ?_, fun isFailed => ?_⟩
  · rw [last.row, settled (.inl isSent)]
  · rw [last.row, settled (.inr isSkipped)]
  · by_contra wasSent
    rcases reached.sends wasSent with isSent | ⟨isSending, _⟩
    · rw [isSent] at isFailed
      cases isFailed
    · rw [isSending] at isFailed
      cases isFailed

/-! A slow attempt fails when another, begun after the staleness limit, has already been sent. -/

def plainEnv : NotificationEnv :=
  { secretUrl := fun _ _ => .ok "json://hook"
    smtpServer := fun _ _ => .error (apiError 409 "smtp_credentials_unavailable" "SMTP credentials could not be resolved.")
    deliveryMail := fun _ _ => .error (apiError 409 "password_reset_delivery_invalid" "Password reset delivery is invalid.")
    passwordResetRecipientUrl := fun url _ => .ok url }

def plainDelivery : NotificationDelivery := { id := 1, alertId := none, notificationTargetId := 1 }

def withDelivery (delivery : NotificationDelivery) : Database where
  notificationTargets := ⟨[{ id := 1 }], by decide⟩
  deliveries := ⟨[delivery], List.nodup_singleton _⟩

def plainPlan : NotificationPlan :=
  { deliveryId := 1, targetId := 1, targetKind := "apprise", purpose := "alert", correlationId := none
    url := some "json://hook" }

def plainWorld : DeliveryWorld := { db := withDelivery plainDelivery, clock := 0 }

def firstAttempt : NotificationDelivery := sending plainDelivery 0
def secondAttempt : NotificationDelivery := sending firstAttempt 301000000
def timeout : IntegrationError := ⟨"notification_delivery_failed", "transient"⟩

def hook : Addressed := { url := some "json://hook" }

def slowPrepared : DeliveryWorld :=
  { entering plainWorld 0 0 (.prepared plainPlan 1) with db := withDelivery firstAttempt }
def slowAddressed : DeliveryWorld := entering slowPrepared 0 0 (.addressed plainPlan hook 1)
def takenUp : DeliveryWorld :=
  { entering slowAddressed 1 301000000 (.prepared plainPlan 2) with db := withDelivery secondAttempt }
def takenAddressed : DeliveryWorld := entering takenUp 1 301000000 (.addressed plainPlan hook 2)
def takenSent : DeliveryWorld := { entering takenAddressed 1 301000000 (.sent 2) with sends := [2] }
def takenMarked : DeliveryWorld :=
  { entering takenSent 1 302000000 (.finished ⟨1, .sent, true⟩) with
    db := withDelivery (sentNow secondAttempt 302000000) }
def slowFailed : DeliveryWorld := entering takenMarked 0 303000000 (.failing timeout 1)
def slowMarked : DeliveryWorld :=
  { entering slowFailed 0 303000000 .raised with db := markFailed slowFailed.db 1 timeout.code 303000000 }

/-- The second attempt was sent; the first one then fails, and so does the delivery. -/
theorem sent_delivery_fails : ∃ actions actions' world world',
    Run (DeliveryStep plainEnv 1) plainWorld actions world ∧ Run (DeliveryStep plainEnv 1) world actions' world' ∧
      (∃ delivery, world.row 1 = some delivery ∧ delivery.state = .sent) ∧
      ∃ delivery, world'.row 1 = some delivery ∧ delivery.state = .failed := by
  have prepared : DeliveryStep plainEnv 1 plainWorld (.prepare 0) slowPrepared :=
    .planned (le_refl _) rfl (show prepare plainEnv plainWorld.db 1 0 = .ok (withDelivery firstAttempt, _) from rfl)
  have addressed : DeliveryStep plainEnv 1 slowPrepared (.address 0) slowAddressed := .addressed (le_refl _) rfl rfl
  have taken : DeliveryStep plainEnv 1 slowAddressed (.prepare 1) takenUp :=
    .planned (by decide) rfl
      (show prepare plainEnv slowAddressed.db 1 301000000 = .ok (withDelivery secondAttempt, _) from rfl)
  have addressedAgain : DeliveryStep plainEnv 1 takenUp (.address 1) takenAddressed := .addressed (le_refl _) rfl rfl
  have sent : DeliveryStep plainEnv 1 takenAddressed (.sendSucceeds 1) takenSent := by
    exact @DeliveryStep.sendSucceeds plainEnv 1 takenAddressed 1 2 301000000 plainPlan hook (le_refl _) rfl rfl
  have marked : DeliveryStep plainEnv 1 takenSent (.mark 1) takenMarked :=
    @DeliveryStep.markedSent plainEnv 1 takenSent 1 2 302000000 _ (by decide) rfl rfl
  have failed : DeliveryStep plainEnv 1 takenMarked (.sendFails 0) slowFailed :=
    @DeliveryStep.sendFails plainEnv 1 takenMarked 0 1 303000000 plainPlan hook timeout (by decide) rfl fun _ => nofun
  have markedFailed : DeliveryStep plainEnv 1 slowFailed (.mark 0) slowMarked :=
    @DeliveryStep.markedFailed plainEnv 1 slowFailed 0 1 303000000 timeout (le_refl _) rfl
  exact ⟨_, _, takenMarked, slowMarked,
    .next prepared (.next addressed (.next taken (.next addressedAgain (.next sent (.next marked (.done _)))))),
    .next failed (.next markedFailed (.done _)), ⟨_, rfl, rfl⟩, _, rfl, rfl⟩

def sentWorld : DeliveryWorld := { entering slowAddressed 0 0 (.sent 1) with sends := [1] }
def markedWorld : DeliveryWorld :=
  { entering sentWorld 0 0 (.finished ⟨1, .sent, true⟩) with db := withDelivery (sentNow firstAttempt 0) }
def againWorld : DeliveryWorld := { entering markedWorld 1 0 (.finished ⟨1, .sent, false⟩) with db := markedWorld.db }

/-- A delivery is sent in a single attempt; another execution after it finds it so. -/
theorem outcome_stays_sent : ∃ delivery, delivery.state = .sent ∧ againWorld.row 1 = some delivery := by
  have owns (world : DeliveryWorld) (isDb : world.db = withDelivery firstAttempt) : Owns 1 world 1 := by
    refine ⟨firstAttempt, ?_, rfl, rfl⟩
    rw [DeliveryWorld.row, isDb]
    rfl
  have prepared : MeetingStep plainEnv 1 plainWorld (.prepare 0) slowPrepared := by
    refine ⟨.planned (le_refl _) rfl
      (show prepare plainEnv plainWorld.db 1 0 = .ok (withDelivery firstAttempt, .plan plainPlan) from rfl), ?_, ?_⟩
    · exact fun _ _ sends => absurd rfl sends
    · rintro execution attempt (none | none) <;> cases none
  have addressed : MeetingStep plainEnv 1 slowPrepared (.address 0) slowAddressed := by
    refine ⟨.addressed (le_refl _) rfl rfl, fun _ => nofun, ?_⟩
    rintro execution attempt (none | none) <;> cases none
  have sent : MeetingStep plainEnv 1 slowAddressed (.sendSucceeds 0) sentWorld := by
    refine ⟨@DeliveryStep.sendSucceeds plainEnv 1 slowAddressed 0 1 0 plainPlan hook (le_refl _) rfl rfl,
      fun _ => nofun, ?_⟩
    rintro execution attempt (same | none) isAttempt
    · cases same
      obtain rfl : 1 = attempt := Option.some.inj isAttempt
      exact owns slowAddressed rfl
    · cases none
  have marked : MeetingStep plainEnv 1 sentWorld (.mark 0) markedWorld := by
    refine ⟨@DeliveryStep.markedSent plainEnv 1 sentWorld 0 1 0 _ (le_refl _) rfl rfl, fun _ => nofun, ?_⟩
    rintro execution attempt (none | same) isAttempt
    · cases none
    · cases same
      obtain rfl : 1 = attempt := Option.some.inj isAttempt
      exact owns sentWorld rfl
  have again : MeetingStep plainEnv 1 markedWorld (.prepare 1) againWorld := by
    refine ⟨.ended (le_refl _) rfl
      (show prepare plainEnv markedWorld.db 1 0 = .ok (markedWorld.db, .result ⟨1, .sent, false⟩) from rfl), ?_, ?_⟩
    · rintro execution _ _ delivery isRow
      cases isRow
      rfl
    · rintro execution attempt (none | none) <;> cases none
  obtain ⟨delivery, isRow, stays, _⟩ := outcome_stays (show plainWorld.row 1 = some plainDelivery from rfl) rfl
    (fun _ => rfl) rfl (.next prepared (.next addressed (.next sent (.next marked (.done _))))) (.next again (.done _))
  cases isRow
  exact ⟨_, rfl, (stays rfl).2⟩

end ZeroNvr.DeliveryOutcome
