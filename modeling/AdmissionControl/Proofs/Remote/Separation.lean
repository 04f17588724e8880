import AdmissionControl.Proofs.Admission.Independence
import AdmissionControl.Proofs.Remote.Access
import AdmissionControl.Proofs.Remote.Happenings

/-!
# Identities do not get in each other's way

Every operation uses one key at most, and its answer depends on nothing else that the server holds
(`effect_congr`). The keys of different identities differ, whatever the identities are called, and
so do those of a counter and of a block. What happens at a server is therefore the same to one
identity whether anything happens to others or not.

`SharesKeys` relates two deployments which one identity cannot tell apart: they hold the same for
it, and their adapters get to the keys alike. Whatever concerns the identity has the same answers at
both and keeps them so related; whatever concerns only others may take place at one of them alone.
-/

namespace AdmissionControl

namespace Request

/-- A request concerns no identity but the given one. -/
def Concerns (identity : Identity) : Request → Prop
  | .call operation => operation.Concerns identity
  | .admission address token => Identity.resolve address token = identity

instance (identity : Identity) : (request : Request) → Decidable (request.Concerns identity)
  | .call operation => inferInstanceAs (Decidable (operation.Concerns identity))
  | .admission _ _ => inferInstanceAs (Decidable (_ = _))

variable {identity : Identity} {request : Request}

theorem within_of_concerns (concerns : request.Concerns identity) (service : Service) :
    request.Within (Operation.Concerns identity) service := by
  cases request with
  | call operation => exact concerns
  | admission address token =>
      cases concerns
      exact (service.check address token).concerns_operation

/-- A request that concerns another identity makes no call but on that one. -/
theorem within_of_not_concerns (foreign : ¬request.Concerns identity) (service : Service) :
    request.Within (fun operation => ¬operation.Concerns identity) service := by
  cases request with
  | call operation => exact foreign
  | admission address token =>
      intro phase concerns
      apply foreign
      cases phase <;> exact concerns _ rfl

end Request

namespace Remote

/-- Two tables hold the same under some keys. -/
def SameUnder (keys : String → Prop) (left right : Table String Item) : Prop :=
  ∀ key, keys key → left.get? key = right.get? key

variable {keys : String → Prop} {left right : Table String Item} {manner : Manner} {now : Instant}
  {identity : Identity} {window : Duration} {operation : Operation}

namespace SameUnder

theorem insert (same : SameUnder keys left right) (key : String) (item : Item) :
    SameUnder keys (left.insert key item) (right.insert key item) := by
  intro other used
  rw [Table.get?_insert, Table.get?_insert, same other used]

theorem erase (same : SameUnder keys left right) (key : String) :
    SameUnder keys (left.erase key) (right.erase key) := by
  intro other used
  rw [Table.get?_erase, Table.get?_erase, same other used]

theorem retain (same : SameUnder keys left right) (keep : Item → Bool) :
    SameUnder keys (left.retain keep) (right.retain keep) := by
  intro other used
  rw [Table.get?_retain, Table.get?_retain, same other used]

end SameUnder

/-! ## The key that an operation uses -/

theorem carryOut_congr {command : Command} (same : SameUnder keys left right)
    (within : ∀ key, command.key? = some key → keys key) :
    (Server.carryOut manner now left command).1 = (Server.carryOut manner now right command).1 ∧
      SameUnder keys (Server.carryOut manner now left command).2
        (Server.carryOut manner now right command).2 := by
  cases command with
  | set key value onlyIfAbsent lifetime =>
      have held := same key (within key rfl)
      simp only [Server.carryOut, held]
      split
      · exact ⟨rfl, same⟩
      · split
        · exact ⟨rfl, same⟩
        · exact ⟨rfl, same.insert _ _⟩
  | increment key =>
      have held := same key (within key rfl)
      simp only [Server.carryOut, Server.incremented, held]
      split
      · exact ⟨rfl, same⟩
      · split
        · exact ⟨rfl, same⟩
        · exact ⟨rfl, same.insert _ _⟩
  | present key =>
      simp only [Server.carryOut, same key (within key rfl)]
      exact ⟨trivial, same⟩
  | delete key =>
      simp only [Server.carryOut, same key (within key rfl)]
      exact ⟨trivial, same.erase key⟩
  | _ => exact ⟨rfl, same⟩

theorem carryOutAll_congr {commands : List Command} (same : SameUnder keys left right)
    (within : ∀ command ∈ commands, ∀ key, command.key? = some key → keys key) :
    (Server.carryOutAll manner now left commands).1 =
        (Server.carryOutAll manner now right commands).1 ∧
      SameUnder keys (Server.carryOutAll manner now left commands).2
        (Server.carryOutAll manner now right commands).2 := by
  induction commands generalizing left right with
  | nil => exact ⟨rfl, same⟩
  | cons command rest ih =>
      rcases @carryOut_congr _ _ _ manner now _ same (within command List.mem_cons_self) with
        ⟨reply, after⟩
      rcases ih after fun other member => within other (List.mem_cons_of_mem _ member) with
        ⟨replies, last⟩
      refine ⟨?_, last⟩
      simp only [Server.carryOutAll, reply, replies]

/-- The key whose content an operation reads or changes. -/
def usedKey? : Operation → Option String
  | .isBlocked identity => some (blockedKey identity)
  | .increment identity => some (counterKey identity)
  | .block identity _ => some (blockedKey identity)
  | .reset identity => some (counterKey identity)
  | .ping => none
  | .close => none

/-- What an operation answers, and what it leaves under some keys, depends on these keys alone if
its own is one of them. -/
theorem effect_congr {left right : Server} (manner : left.manner = right.manner)
    (now : left.now = right.now) (same : SameUnder keys left.items right.items)
    (within : ∀ key, usedKey? operation = some key → keys key) :
    (effect window left operation).1 = (effect window right operation).1 ∧
      SameUnder keys (effect window left operation).2 (effect window right operation).2 := by
  cases operation with
  | isBlocked identity =>
      simp only [effect, same _ (within _ rfl)]
      exact ⟨trivial, same⟩
  | increment identity =>
      -- Both commands of the transaction are about the key of the counter.
      have about : ∀ command ∈ transaction window identity, ∀ key,
          command.key? = some key → keys key := by
        intro command member key used
        simp only [transaction, creation, List.mem_cons, List.not_mem_nil, or_false] at member
        rcases member with rfl | rfl <;> exact within key used
      rcases @carryOutAll_congr _ _ _ right.manner right.now _ same about with ⟨replies, after⟩
      simp only [effect, manner, now]
      exact ⟨congrArg (fun list => (Reply.array list).read.bind Adapter.countOf) replies, after⟩
  | block identity span =>
      simp only [effect, manner, now]
      split
      · exact ⟨rfl, same⟩
      · exact ⟨rfl, same.insert _ _⟩
  | reset identity => exact ⟨rfl, same.erase _⟩
  | ping => exact ⟨rfl, same⟩
  | close => exact ⟨rfl, same⟩

def OwnKey (identity : Identity) (key : String) : Prop :=
  key = counterKey identity ∨ key = blockedKey identity

instance (identity : Identity) (key : String) : Decidable (OwnKey identity key) :=
  inferInstanceAs (Decidable (_ ∨ _))

theorem usedKey?_of_concerns (concerns : operation.Concerns identity) :
    ∀ key, usedKey? operation = some key → OwnKey identity key := by
  intro key used
  cases operation with
  | isBlocked subject =>
      cases concerns subject rfl
      exact .inr (Option.some.inj used).symm
  | increment subject =>
      cases concerns subject rfl
      exact .inl (Option.some.inj used).symm
  | block subject span =>
      cases concerns subject rfl
      exact .inr (Option.some.inj used).symm
  | reset subject =>
      cases concerns subject rfl
      exact .inl (Option.some.inj used).symm
  | ping => cases used
  | close => cases used

theorem effect_of_not_concerns (foreign : ¬operation.Concerns identity) (server : Server) :
    SameUnder (OwnKey identity) server.items (effect window server operation).2 := by
  have other (same : operation.subject? = some identity) : False := by
    apply foreign
    intro subject about
    exact Option.some.inj (about.symm.trans same)
  rintro key (rfl | rfl)
  · refine (effect_counterKey ?_ ?_).symm
    · rintro rfl
      exact other rfl
    · rintro rfl
      exact other rfl
  · refine (effect_blockedKey ?_).symm
    rintro span rfl
    exact other rfl

namespace Deployment

/-! ## Deployments that one identity cannot tell apart -/

/-- Two deployments without a script hold the same for an identity, and their adapters get to the
keys alike. -/
structure SharesKeys (identity : Identity) (left right : Deployment) : Prop where
  leftSteady : left.Steady
  rightSteady : right.Steady
  route : left.route = right.route
  adapters : left.adapters.length = right.adapters.length
  manner : left.server.manner = right.server.manner
  now : left.server.now = right.server.now
  access : ∀ entrance, left.access entrance = right.access entrance
  items : SameUnder (OwnKey identity) left.server.items right.server.items

namespace SharesKeys

variable {left right : Deployment} {entrance : Nat}

theorem refl (steady : left.Steady) : SharesKeys identity left left where
  leftSteady := steady
  rightSteady := steady
  route := rfl
  adapters := rfl
  manner := rfl
  now := rfl
  access _ := rfl
  items _ _ := rfl

theorem outcome_congr (shares : SharesKeys identity left right)
    (concerns : operation.Concerns identity) :
    (left.outcome entrance operation).1 = (right.outcome entrance operation).1 ∧
      SameUnder (OwnKey identity) (left.outcome entrance operation).2
        (right.outcome entrance operation).2 := by
  simp only [outcome, shares.access]
  cases right.access entrance with
  | error impasse => exact ⟨rfl, shares.items⟩
  | ok window =>
      rcases @effect_congr _ window _ _ _ shares.manner shares.now shares.items
        (usedKey?_of_concerns concerns) with ⟨answer, items⟩
      exact ⟨congrArg Adapter.report answer, items⟩

theorem perform (shares : SharesKeys identity left right) (concerns : operation.Concerns identity) :
    (left.perform entrance operation).1 = (right.perform entrance operation).1 ∧
      SharesKeys identity (left.perform entrance operation).2
        (right.perform entrance operation).2 := by
  by_cases kept : operation = .close
  · subst kept
    rcases shares.leftSteady.perform_close entrance with
      ⟨leftSteady, leftRoute, leftServer, leftAdapters, leftAccess⟩
    rcases shares.rightSteady.perform_close entrance with
      ⟨rightSteady, rightRoute, rightServer, rightAdapters, rightAccess⟩
    refine ⟨?_, leftSteady, rightSteady, ?_, ?_, ?_, ?_, ?_, ?_⟩
    · -- Closing fails where there is no adapter, and the two have as many.
      have present : entrance < left.adapters.length ↔ entrance < right.adapters.length := by
        rw [shares.adapters]
      by_cases within : entrance < left.adapters.length
      · simp [Deployment.perform, within, present.mp within, Adapter.perform]
      · have beyond := mt present.mpr within
        simp [Deployment.perform, within, beyond]
    · rw [leftRoute, rightRoute, shares.route]
    · rw [leftAdapters, rightAdapters, shares.adapters]
    · rw [leftServer, rightServer, shares.manner]
    · rw [leftServer, rightServer, shares.now]
    · intro other
      rw [leftAccess, rightAccess, shares.access]
    · rw [leftServer, rightServer]
      exact shares.items
  · rcases shares.leftSteady.perform entrance kept with ⟨leftArrival, leftAfter⟩
    rcases shares.rightSteady.perform entrance kept with ⟨rightArrival, rightAfter⟩
    rcases @outcome_congr _ _ _ _ entrance shares concerns with ⟨same, items⟩
    refine ⟨?_, leftAfter.steady, rightAfter.steady, ?_, ?_, ?_, ?_, ?_, ?_⟩
    · rw [leftArrival, rightArrival, same]
    · rw [leftAfter.route, rightAfter.route, shares.route]
    · rw [leftAfter.adapters, rightAfter.adapters, shares.adapters]
    · rw [leftAfter.manner, rightAfter.manner, shares.manner]
    · rw [leftAfter.now, rightAfter.now, shares.now]
    · intro other
      rw [leftAfter.access, rightAfter.access, shares.access]
    · rw [leftAfter.items, rightAfter.items]
      exact items

/-- An operation on another identity may be performed at one deployment alone. -/
theorem perform_other (shares : SharesKeys identity left right)
    (foreign : ¬operation.Concerns identity) :
    SharesKeys identity left (right.perform entrance operation).2 := by
  have kept : operation ≠ .close := by
    rintro rfl
    exact foreign nofun
  rcases shares.rightSteady.perform entrance kept with ⟨-, after⟩
  refine ⟨shares.leftSteady, after.steady, ?_, ?_, ?_, ?_, ?_, ?_⟩
  · rw [after.route, shares.route]
  · rw [after.adapters, shares.adapters]
  · rw [after.manner, shares.manner]
  · rw [after.now, shares.now]
  · intro other
    rw [after.access, shares.access]
  · intro key own
    rw [after.items, shares.items key own]
    cases reaches : right.access entrance with
    | error impasse => rw [outcome_of_impasse reaches]
    | ok window =>
        rw [outcome_of_access reaches]
        exact effect_of_not_concerns foreign right.server key own

theorem connect (shares : SharesKeys identity left right) (url : String) (window : Duration) :
    SharesKeys identity (left.connect url window).2.2 (right.connect url window).2.2 := by
  cases usable : Address.ofUrl url with
  | error problem =>
      have unread (deployment : Deployment) :
          (deployment.connect url window).2.2 = deployment := by
        simp only [Deployment.connect, usable]
      rw [unread, unread]
      exact shares
  | ok address =>
      cases route : right.route with
      | unreachable =>
          rw [connect_of_unreachable (shares.route.trans route), connect_of_unreachable route]
          exact shares
      | reachable =>
          rcases shares.leftSteady.connect_of_usable usable (shares.route.trans route) window with
            ⟨leftReceived, leftTaken⟩
          rcases shares.rightSteady.connect_of_usable usable route window with
            ⟨rightReceived, rightTaken⟩
          rw [leftTaken, rightTaken]
          constructor
          · exact shares.leftSteady.connected leftReceived address window
          · exact shares.rightSteady.connected rightReceived address window
          · exact shares.route
          · simp only [List.length_append, shares.adapters]
          · exact shares.manner
          · exact shares.now
          · intro entrance
            rw [access_append, access_append, shares.adapters, shares.route, shares.access]
          · exact shares.items

/-- What the server does to its keys by itself, or another program does to them, may differ as far
as the keys of the identity are left alike. -/
theorem withServer (shares : SharesKeys identity left right) (first second : Server)
    (firstScript : first.script = left.server.script)
    (secondScript : second.script = right.server.script) (manner : first.manner = second.manner)
    (now : first.now = second.now)
    (items : SameUnder (OwnKey identity) first.items second.items) :
    SharesKeys identity { left with server := first } { right with server := second } where
  leftSteady := ⟨firstScript.trans shares.leftSteady.unscripted, shares.leftSteady.settled⟩
  rightSteady := ⟨secondScript.trans shares.rightSteady.unscripted, shares.rightSteady.settled⟩
  route := shares.route
  adapters := shares.adapters
  manner := manner
  now := now
  access := shares.access
  items := items

end SharesKeys

end Deployment

/-! ## What happens to one identity -/

def Happening.Concerns (identity : Identity) : Happening → Prop
  | .pass _ => True
  | .vanish key => OwnKey identity key
  | .write key _ => OwnKey identity key
  | .connect _ _ => True
  | .ask _ _ request => request.Concerns identity

instance (identity : Identity) : (happening : Happening) → Decidable (happening.Concerns identity)
  | .pass _ => .isTrue trivial
  | .vanish key => inferInstanceAs (Decidable (OwnKey identity key))
  | .write key _ => inferInstanceAs (Decidable (OwnKey identity key))
  | .connect _ _ => .isTrue trivial
  | .ask _ _ request => inferInstanceAs (Decidable (request.Concerns identity))

def Heard.Concerns (identity : Identity) (heard : Heard) : Prop :=
  heard.response.request.Concerns identity

instance (identity : Identity) (heard : Heard) : Decidable (heard.Concerns identity) :=
  inferInstanceAs (Decidable (heard.response.request.Concerns identity))

namespace Deployment

namespace SharesKeys

variable {left right : Deployment} {happening : Happening} {happenings : List Happening}

/-- What concerns the identity comes out alike at both deployments. -/
theorem happen (shares : SharesKeys identity left right) (concerns : happening.Concerns identity) :
    (left.happen happening).1 = (right.happen happening).1 ∧
      SharesKeys identity (left.happen happening).2 (right.happen happening).2 ∧
      ∀ heard ∈ (right.happen happening).1, heard.Concerns identity := by
  have unheard : ∀ heard ∈ (none : Option Heard), heard.Concerns identity := by simp
  cases happening with
  | pass now =>
      exact ⟨rfl, shares.withServer (left.server.advance now) (right.server.advance now)
        rfl rfl shares.manner rfl (shares.items.retain _), unheard⟩
  | vanish key =>
      exact ⟨rfl, shares.withServer (left.server.expire key) (right.server.expire key)
        rfl rfl shares.manner shares.now (shares.items.erase _), unheard⟩
  | write key value =>
      exact ⟨rfl, shares.withServer (left.server.put key value) (right.server.put key value)
        rfl rfl shares.manner shares.now (shares.items.insert _ _), unheard⟩
  | connect url window => exact ⟨rfl, shares.connect url window, unheard⟩
  | ask entrance service request =>
      have matching : (store entrance).Matches (store entrance) (SharesKeys identity)
          (Operation.Concerns identity) :=
        fun operation now left right allowed shares => shares.perform allowed
      rcases serve_alike shares shares.now matching
        (Request.within_of_concerns concerns service) with ⟨same, after⟩
      simp only [happen_ask, same]
      refine ⟨trivial, after, ?_⟩
      rintro heard ⟨⟩
      exact concerns

/-- What concerns other identities alone may happen at one deployment only. -/
theorem happen_other (shares : SharesKeys identity left right)
    (foreign : ¬happening.Concerns identity) :
    SharesKeys identity left (right.happen happening).2 ∧
      ∀ heard ∈ (right.happen happening).1, ¬heard.Concerns identity := by
  have unheard : ∀ heard ∈ (none : Option Heard), ¬heard.Concerns identity := by simp
  cases happening with
  | pass now => exact absurd trivial foreign
  | vanish key =>
      have items : SameUnder (OwnKey identity) left.server.items
          (right.server.items.erase key) := by
        intro other own
        have differs : other ≠ key := by
          rintro rfl
          exact foreign own
        rw [Table.get?_erase, if_neg differs]
        exact shares.items other own
      exact ⟨shares.withServer left.server (right.server.expire key) rfl rfl shares.manner
        shares.now items, unheard⟩
  | write key value =>
      have items : SameUnder (OwnKey identity) left.server.items
          (right.server.items.insert key ⟨value, none, none⟩) := by
        intro other own
        have differs : other ≠ key := by
          rintro rfl
          exact foreign own
        rw [Table.get?_insert, if_neg differs]
        exact shares.items other own
      exact ⟨shares.withServer left.server (right.server.put key value) rfl rfl shares.manner
        shares.now items, unheard⟩
  | connect url window => exact absurd trivial foreign
  | ask entrance service request =>
      simp only [happen_ask]
      constructor
      · exact serve_keeps right (fun operation before away kept => kept.perform_other away)
          (Request.within_of_not_concerns foreign service) shares
      · rintro heard ⟨⟩
        exact foreign

theorem run (shares : SharesKeys identity left right) :
    (left.run (happenings.filter fun happening => happening.Concerns identity)).1 =
        (right.run happenings).1.filter (fun heard => heard.Concerns identity) ∧
      SharesKeys identity
        (left.run (happenings.filter fun happening => happening.Concerns identity)).2
        (right.run happenings).2 := by
  apply run_filter
  · intro happening left right keep shares
    simpa using shares.happen (of_decide_eq_true keep)
  · intro happening left right keep shares
    simpa using shares.happen_other (of_decide_eq_false keep)
  · exact shares

end SharesKeys

namespace Steady

variable {deployment : Deployment} {entrance : Nat}

/-- Whatever happens, no transaction is ever left open. -/
theorem run (steady : deployment.Steady) (happenings : List Happening) :
    (deployment.run happenings).2.Steady :=
  (SharesKeys.refl steady : SharesKeys (.ip "") deployment deployment).run.2.rightSteady

theorem items_of_other (steady : deployment.Steady) {key : String}
    (other : changedKey? operation ≠ some key) :
    (deployment.perform entrance operation).2.server.items.get? key =
      deployment.server.items.get? key := by
  by_cases kept : operation = .close
  · subst kept
    rw [(steady.perform_close entrance).2.2.1]
  · rw [(steady.perform entrance kept).2.items]
    cases reaches : deployment.access entrance with
    | error impasse => rw [outcome_of_impasse reaches]
    | ok window =>
        rw [outcome_of_access reaches]
        exact effect_of_other other

/-- Whether an identity is blocked depends on the key of its block. -/
theorem lookup_congr (steady : deployment.Steady) {other : Deployment} (otherSteady : other.Steady)
    (access : other.access entrance = deployment.access entrance)
    (held : other.server.items.get? (blockedKey identity) =
      deployment.server.items.get? (blockedKey identity)) :
    (other.perform entrance (.isBlocked identity)).1 =
      (deployment.perform entrance (.isBlocked identity)).1 := by
  have kept : Operation.isBlocked identity ≠ .close := nofun
  rw [(steady.perform entrance kept).1, (otherSteady.perform entrance kept).1]
  unfold outcome
  rw [access]
  cases deployment.access entrance with
  | error impasse => rfl
  | ok window => simp only [effect, held]

end Steady

end Deployment

/-- The keys of different identities differ, and so do those of a counter and of a block, whatever
the identities are called. So each operation changes the one key of its identity that it is meant
to, whatever lies under the keys, and whether an identity is blocked depends on the key of its block
alone. An identity hears the same, whatever is asked for others before, between and after, through
whichever adapter, and the same holds of it again after whatever happened. -/
theorem identities_separate {deployment : Deployment} (steady : deployment.Steady)
    (identity : Identity) :
    (∀ other, (counterKey identity = counterKey other ↔ identity = other) ∧
      (blockedKey identity = blockedKey other ↔ identity = other) ∧
      counterKey identity ≠ blockedKey other) ∧
    (∀ entrance key,
      let unchanged := fun operation =>
        (deployment.perform entrance operation).2.server.items.get? key =
          deployment.server.items.get? key
      (key ≠ counterKey identity → unchanged (.increment identity) ∧ unchanged (.reset identity)) ∧
      (key ≠ blockedKey identity → ∀ span, unchanged (.block identity span)) ∧
      unchanged (.isBlocked identity)) ∧
    (∀ entrance (other : Deployment), other.Steady →
      other.access entrance = deployment.access entrance →
      other.server.items.get? (blockedKey identity) =
        deployment.server.items.get? (blockedKey identity) →
      (other.perform entrance (.isBlocked identity)).1 =
        (deployment.perform entrance (.isBlocked identity)).1) ∧
    ∀ happenings : List Happening,
      (deployment.run (happenings.filter fun happening => happening.Concerns identity)).1 =
          ((deployment.run happenings).1.filter fun heard => heard.Concerns identity) ∧
        (deployment.run happenings).2.Steady := by
  refine ⟨?_, ?_, ?_, ?_⟩
  · exact fun other => ⟨counterKey_inj, blockedKey_inj, counterKey_ne_blockedKey identity other⟩
  · intro entrance key unchanged
    refine ⟨?_, ?_, ?_⟩
    · intro differs
      have other : some (counterKey identity) ≠ some key :=
        fun same => differs (Option.some.inj same).symm
      exact ⟨steady.items_of_other other, steady.items_of_other other⟩
    · intro differs span
      have other : some (blockedKey identity) ≠ some key :=
        fun same => differs (Option.some.inj same).symm
      exact steady.items_of_other other
    · exact steady.items_of_other nofun
  · intro entrance other otherSteady access held
    exact steady.lookup_congr otherSteady access held
  · intro happenings
    exact ⟨(Deployment.SharesKeys.refl steady).run.1, steady.run happenings⟩

/-- An address, and tokens that are spelled like it and like the key of its counter. -/
def lookalikes : List Happening :=
  let service : Service := ⟨⟨1, 1, .ofSeconds 300⟩, none⟩
  [.ask 0 service (.admission "10.0.0.1" ""), .ask 1 service (.admission "10.0.0.2" "10.0.0.1"),
    .ask 1 service (.call (.reset (.token "rate_limit:counter:ip:10.0.0.1"))), .pass ⟨1000000⟩,
    .ask 0 service (.admission "10.0.0.2" "10.0.0.1"), .ask 1 service (.admission "10.0.0.1" "")]

theorem identities_separate_of_lookalikes :
    let service : Service := ⟨⟨1, 1, .ofSeconds 300⟩, none⟩
    let deployment := Deployment.joined "redis://10.0.0.9" (.ofSeconds 1) 2
    (deployment.run lookalikes).1.filter (fun heard => heard.Concerns (.ip "10.0.0.1")) =
      (deployment.run [.ask 0 service (.admission "10.0.0.1" ""), .pass ⟨1000000⟩,
        .ask 1 service (.admission "10.0.0.1" "")]).1 := by
  intro service deployment
  have usable : Address.ofUrl "redis://10.0.0.9" = .ok ⟨"10.0.0.9", 6379, none, none, 0⟩ := by
    rfl
  have steady := (@Deployment.fresh_joined _ (.ofSeconds 1) _ usable 2).ready.steady
  exact ((identities_separate steady (.ip "10.0.0.1")).2.2.2 lookalikes).1.symm

end Remote

end AdmissionControl
