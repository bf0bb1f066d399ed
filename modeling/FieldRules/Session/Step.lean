/-
What can be asked of a session, and what it answers.

* `Step`, `Answer`: the requests and the answers;
* `Turn`: an answer together with what listeners heard and with the messages of
  the targets that were involved;
* `Session.step`: the outcome of a step, and the session afterwards;
* `Session.run`: the outcomes of many steps.
-/
import FieldRules.Session.Basic

namespace FieldRules

namespace Session

/-- How the messages of a new target begin. -/
inductive Start where
  /-- With the fields of its model, and a channel of the capacity that is set. -/
  | forModel
  /-- Without fields, and with a channel of this capacity. -/
  | withCapacity (n : Nat)

/-- Without fields, and with a channel of the capacity of these settings. -/
def Start.ofSettings (settings : Settings) : Start :=
  .withCapacity settings.eventCapacity

/-- A question about the messages of a target. -/
inductive Query where
  /-- Whether there are messages. -/
  | has (field : Option String) (kind : Option MessageKind)
  /-- The messages of a field. -/
  | messages (field : String)
  /-- The messages of all registered fields. -/
  | allMessages
  /-- Whether a field is registered. -/
  | isRegistered (field : String)
  /-- Whether there are no messages. -/
  | isValid
  /-- A display of the messages. -/
  | outline

/-- What can be asked of a session. -/
inductive Step where
  /-- Let a model declare these rules from now on. -/
  | declare (model : String) (rules : RuleTable)
  /-- Make a target. -/
  | create (target model : String) (start : Start) (fields : List (String × Value))
      (localizer : Option Localizer)
  /-- Give up a target. -/
  | discard (target : String)
  /-- Show the registry. -/
  | registry
  /-- Share this localizer from now on. -/
  | localization (localizer : Option Localizer)
  /-- Look a key up in the shared localizer. -/
  | lookup (key : String)
  /-- Read one event. -/
  | receive (receiver : String)
  /-- Read all events that are there. -/
  | drain (receiver : String)
  /-- Stop reading. -/
  | unsubscribe (receiver : String)
  /-- Start reading the events of a target. -/
  | subscribe (target receiver : String)
  /-- Let a listener hear the events of a target. -/
  | listen (target listener : String)
  /-- Store into the object of a target. -/
  | set (target : String) (path : List String) (value : Option Value)
  /-- Act on a target; another one may receive the messages. -/
  | act (target : String) (proxy : Option String) (action : Action)
  /-- Ask about the messages of a target. -/
  | ask (target : String) (query : Query)

/-- What a session answers. -/
inductive Answer where
  /-- The reply to an action; also the answer of steps that have nothing to say. -/
  | reply (r : Reply)
  /-- Yes or no. -/
  | flag (b : Bool)
  /-- The messages of a field. -/
  | messages (ms : List Message)
  /-- A display. -/
  | outline (s : String)
  /-- The registry. -/
  | registry (r : Registry)
  /-- Whether a localizer is shared, and its text for a key. -/
  | lookup (installed : Bool) (text : Option String)
  /-- What a receiver got. -/
  | received (r : Received Event)
  /-- What a receiver got until there was nothing more. -/
  | drained (rs : List (Received Event))
  /-- There is no such target or receiver. -/
  | missing

/-- The outcome of a step. -/
structure Turn where
  /-- The answer. -/
  answer : Answer
  /-- What listeners heard, in order, each event with the name of the listener. -/
  heard : List (String × Event)
  /-- The messages of the target afterwards, if the step was about one. -/
  state : Option (List (String × List Message))
  /-- The messages of the other target afterwards, if the step was about one. -/
  proxyState : Option (List (String × List Message))

/-! ### Steps -/

/-- The outcome of a step that is about no target. -/
def told (a : Answer) (s : Session) : Turn × Session :=
  (⟨a, [], none, none⟩, s)

/-- The outcome of a step that is about a target and perhaps about another one. What they published
is delivered first. -/
def toldOf (a : Answer) (name : String) (proxy : Option String) (s : Session) : Turn × Session :=
  let (heard, s) := s.deliver name
  let (heardOfProxy, s) :=
    match proxy with
    | some p => s.deliver p
    | none => ([], s)
  (⟨a, heard ++ heardOfProxy, s.fieldsOf name, proxy.bind s.fieldsOf⟩, s)

/-- Goes on with a target, if it exists. -/
def withTarget (s : Session) (name : String) (act : Target → Turn × Session) : Turn × Session :=
  match s.target? name with
  | some t => act t
  | none => told .missing s

/-- The registered fields and the capacity of a new target, and the session with the book that may
have been built for it. -/
def begin (s : Session) (m : SessionModel) : Start → Except Error (Store × Nat) × Session
  | .withCapacity n => (.ok (.empty, n), s)
  | .forModel =>
    match (s.booksFor m).getOrBuild m.model with
    | (.error e, books) => (.error e, s.withBooksFor m books)
    | (.ok b, books) =>
      (.ok (Store.empty.registerAll b.names, s.settings.eventCapacity), s.withBooksFor m books)

/-- Makes a target, if there is a channel for it. It has one listener, which goes by its own
name. -/
def create (s : Session) (name modelName : String) (start : Start)
    (fields : List (String × Value)) (localizer : Option Localizer) : Turn × Session :=
  let m := s.model modelName
  match s.begin m start with
  | (.error e, s) => toldOf (.reply (.failed e)) name none s
  | (.ok (store, capacity), s) =>
    match Channel.ofCapacity? capacity with
    | none => told .missing s
    | some channel =>
      let s := s.discard name
      let t : Target := ⟨modelName, ⟨⟨m.model.typeName, fields⟩, localizer, store⟩, [name],
        s.channels.length⟩
      let s := { s with channels := s.channels ++ [channel] }
      toldOf (.reply .done) name none (s.putTarget name t)

/-- Acts on a target, and keeps the messages that it and the other target have afterwards. -/
def act (s : Session) (name : String) (proxy : Option String) (a : Action) (t : Target) :
    Turn × Session :=
  let m := s.model t.model
  let other := proxy.bind fun p => (s.target? p).map (·.subject.store)
  let (reply, site) := a.apply m.model ⟨s.booksFor m, s.instanceOf t, other⟩
  let s := (s.withBooksFor m site.registry).putStore name site.subject.store
  let s :=
    match proxy, site.proxy with
    | some p, some store => s.putStore p store
    | _, _ => s
  toldOf (.reply reply) name proxy s

/-- The answer to a question about the messages of a target. -/
def ask (s : Session) (t : Target) : Query → Answer
  | .has field kind => .flag (t.subject.store.has field kind)
  | .messages field => .messages (t.subject.store.messages field)
  | .allMessages => .reply (.fields (sortByName t.subject.store.snapshot))
  | .isRegistered field => .flag (t.subject.store.isRegistered field)
  | .isValid => .flag t.subject.store.isValid
  | .outline => .outline (s.outlineOf t)

/-- The outcome of a step, and the session afterwards. -/
def step (s : Session) : Step → Turn × Session
  | .declare name rules =>
    let m := s.model name
    let m := { m with model := { m.model with rules := rules } }
    told (.reply .done) { s with models := (name, m) :: s.models.filter (·.1 != name) }
  | .create target model start fields localizer => s.create target model start fields localizer
  | .discard target => toldOf (.reply .done) target none (s.discard target)
  | .registry => told (.registry s.registry) s
  | .localization l => told (.reply .done) { s with service := l }
  | .lookup key => told (.lookup s.service.isSome (s.service.bind (· key))) s
  | .receive name =>
    let (got, channels) := readFirst (·.receive name) s.channels
    told ((got.map .received).getD .missing) { s with channels := channels }
  | .drain name =>
    let (got, channels) := readFirst (·.drain name) s.channels
    told ((got.map .drained).getD .missing) { s with channels := channels }
  | .unsubscribe name => told (.flag (s.hasReceiver name)) (s.dropReceiver name)
  | .subscribe target name =>
    s.withTarget target fun t =>
      let s := s.dropReceiver name
      toldOf (.reply .done) target none
        { s with channels := s.channels.modify t.channel (·.subscribe name) }
  | .listen target name =>
    s.withTarget target fun t =>
      toldOf (.reply .done) target none
        (s.putTarget target { t with listeners := t.listeners ++ [name] })
  | .set target path value =>
    s.withTarget target fun t =>
      let x := { t.subject with object := t.subject.object.set value path }
      toldOf (.reply .done) target none (s.putTarget target { t with subject := x })
  | .act target proxy a => s.withTarget target (s.act target proxy a)
  | .ask target q => s.withTarget target fun t => toldOf (s.ask t q) target none s

/-- The outcomes of steps taken one after the other. -/
def run (s : Session) : List Step → List Turn
  | [] => []
  | step :: rest =>
    let (turn, s) := s.step step
    turn :: run s rest

end Session

end FieldRules
