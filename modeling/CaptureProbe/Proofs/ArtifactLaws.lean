import CaptureProbe.Run
import CaptureProbe.Proofs.BufferedReport
import CaptureProbe.Proofs.DirectoryLaws

/-!
What publishing artifacts comes to. A text that is written by a path replaces a file, goes to a device
or is refused; the statistics go to the screen as far as there is room. What one artifact does is said
here apart from how it is done. The records of a run and all files that were not asked for stay as they
are, and what one artifact wrote stays until another goes to the same place.
-/

namespace CaptureProbe

namespace Artifact

def path? : Artifact → Option String
  | .trace path => some path
  | .callGraph path => some path
  | .statistics => none

def file? (c : Context) : Artifact → Option (String × String)
  | .trace path => some (path, c.trace.dump)
  | .callGraph path => some (path, c.graph.toDot)
  | .statistics => none

theorem file?_congr {c d : Context} (a : Artifact) (trace : c.trace = d.trace)
    (graph : c.graph = d.graph) : a.file? c = a.file? d := by
  cases a <;> simp [file?, trace, graph]

def failure : Artifact → Fault → RunFault
  | .trace path => .traceDump path
  | .callGraph path => .callGraphDump path
  | .statistics => .statistics

end Artifact

/-- Writing by a path replaces a file or fails: the path leads to no device. -/
def Directory.Replaces (d : Directory) (path : String) : Prop :=
  ∀ place, d.place? path = some place → d.device? place = none

instance (d : Directory) (path : String) : Decidable (d.Replaces path) :=
  inferInstanceAs (Decidable (∀ place ∈ d.place? path, d.device? place = none))

namespace Run

/-- Publishing leaves the records as they are, all paths lead where they led, and only the files that
some paths lead to are touched. -/
structure Settles (r : Run) (paths : List String) (m : Run) : Prop where
  trace : m.context.trace = r.context.trace
  graph : m.context.graph = r.context.graph
  places : ∀ path, m.directory.place? path = r.directory.place? path
  devices : m.directory.device? = r.directory.device?
  others : ∀ place, (∀ path ∈ paths, r.directory.place? path ≠ some place) →
    m.directory.read? place = r.directory.read? place

namespace Settles

variable {r m l : Run} {paths more : List String}

theorem of_directory (trace : m.context.trace = r.context.trace)
    (graph : m.context.graph = r.context.graph) (directory : m.directory = r.directory) :
    r.Settles paths m where
  trace := trace
  graph := graph
  places := by
    intro path
    rw [directory]
  devices := by rw [directory]
  others := by
    intro place _
    rw [directory]

theorem trans (first : r.Settles paths m) (second : m.Settles more l) :
    r.Settles (paths ++ more) l where
  trace := second.trace.trans first.trace
  graph := second.graph.trans first.graph
  places := by
    intro path
    rw [second.places, first.places]
  devices := second.devices.trans first.devices
  others := by
    intro place apart
    have early := first.others place fun path member => apart path (List.mem_append_left _ member)
    have late := second.others place fun path member => by
      rw [first.places]
      exact apart path (List.mem_append_right _ member)
    exact late.trans early

theorem replaces (settles : r.Settles paths m) {path : String}
    (before : r.directory.Replaces path) : m.directory.Replaces path := by
  intro place found
  rw [settles.places] at found
  rw [settles.devices]
  exact before place found

end Settles

theorem writeDevice_settles (r : Run) (text : String) (device : Device) (paths : List String) :
    r.Settles paths (r.writeDevice text device).2 := by
  cases device <;> exact .of_directory rfl rfl rfl

theorem directory_writeDevice (r : Run) (text : String) (device : Device) :
    (r.writeDevice text device).2.directory = r.directory := by
  cases device <;> rfl

inductive WrittenAs (r : Run) (path text : String) : Except Fault Unit → Run → Prop where
  | refused {fault : Fault} (nowhere : r.directory.locate path = .error fault) :
      WrittenAs r path text (.error fault) r
  | taken {place : Place} {device : Device} {result : Except Fault Unit} {m : Run}
      (found : r.directory.place? path = some place)
      (there : r.directory.device? place = some device)
      (took : r.writeDevice text device = (result, m)) : WrittenAs r path text result m
  | put {place : Place} (found : r.directory.place? path = some place)
      (plain : r.directory.device? place = none) :
      WrittenAs r path text (.ok ()) { r with directory := r.directory.put place text }

theorem writtenAs (r : Run) (path text : String) :
    WrittenAs r path text (r.write path text).1 (r.write path text).2 := by
  unfold write
  cases located : r.directory.locate path with
  | error fault => exact .refused located
  | ok place =>
      have found : r.directory.place? path = some place := by
        rw [Directory.place?, located]
        rfl
      dsimp only
      cases there : r.directory.device? place with
      | some device => exact .taken found there rfl
      | none => exact .put found there

namespace WrittenAs

variable {r m : Run} {path text : String} {result : Except Fault Unit}

theorem settles (written : WrittenAs r path text result m) : r.Settles [path] m := by
  cases written with
  | refused nowhere => exact .of_directory rfl rfl rfl
  | @taken place device _ _ found there took =>
      have kept := r.writeDevice_settles text device [path]
      rwa [took] at kept
  | @put place found plain =>
      refine ⟨rfl, rfl, ?_, rfl, ?_⟩
      · intro other
        exact Directory.place?_put text (Directory.writable_of_place? found) other
      · intro other apart
        have differ : other ≠ place := by
          rintro rfl
          exact apart path (List.mem_singleton_self _) found
        exact r.directory.read?_put_of_ne differ text

theorem directory_of_failed {fault : Fault} (written : WrittenAs r path text (.error fault) m) :
    m.directory = r.directory := by
  cases written with
  | refused nowhere => rfl
  | @taken place device _ _ found there took =>
      have kept := r.directory_writeDevice text device
      rwa [took] at kept

theorem contents (written : WrittenAs r path text (.ok ()) m)
    (replaces : r.directory.Replaces path) : m.directory.contents? path = some text := by
  have settles := written.settles
  rw [Directory.contents?, settles.places]
  cases written with
  | taken found there took => simp [replaces _ found] at there
  | put found plain =>
      rw [found]
      exact r.directory.read?_put _ text

theorem sink (written : WrittenAs r path text result m) (replaces : r.directory.Replaces path) :
    m.context.sink = r.context.sink := by
  cases written with
  | refused nowhere => rfl
  | taken found there took => simp [replaces _ found] at there
  | put found plain => rfl

end WrittenAs

theorem dump_eq (r : Run) (path text : String) (failure : Fault → RunFault) :
    r.dump path text failure = ((r.write path text).1.mapError failure, (r.write path text).2) := by
  unfold dump
  generalize r.write path text = answer
  rcases answer with ⟨_ | _, m⟩ <;> rfl

def statisticsBytes (r : Run) : List UInt8 :=
  Text.bytes (Statistics.report r.context.graph r.context.trace)

/-- The statistics are shown up to where there is no more room on the screen. They are shown if that is
all of them and the screen can be flushed, and otherwise there is the fault of writing them. -/
structure ShowsStatistics (r : Run) (result : Except Fault Unit) (m : Run) : Prop where
  fault : result = (Statistics.printTo r.screen.sink r.context.graph r.context.trace).1
  shown : m = { r with
    screen := { r.screen with sink := r.screen.sink.append (r.screen.sink.part r.statisticsBytes) } }
  all : result = .ok () ↔
    r.screen.sink.room r.statisticsBytes.length = r.statisticsBytes.length ∧
      r.screen.sink.flushFault = none

theorem isOk_iff {result : Except Fault Unit} : result.isOk = true ↔ result = .ok () := by
  cases result with
  | error fault => exact iff_of_false Bool.false_ne_true (by rintro ⟨⟩)
  | ok done => exact iff_of_true rfl rfl

theorem showStatistics_eq (r : Run) :
    r.showStatistics =
      ((Statistics.printTo r.screen.sink r.context.graph r.context.trace).1.mapError .statistics,
        { r with screen := { r.screen with
          sink := (Statistics.printTo r.screen.sink r.context.graph r.context.trace).2 } }) := by
  unfold showStatistics
  generalize Statistics.printTo _ _ _ = answer
  rcases answer with ⟨_ | _, sink⟩ <;> rfl

theorem showsStatistics (r : Run) :
    r.ShowsStatistics (Statistics.printTo r.screen.sink r.context.graph r.context.trace).1
      { r with screen := { r.screen with
        sink := (Statistics.printTo r.screen.sink r.context.graph r.context.trace).2 } } := by
  obtain ⟨left, success⟩ := Buffer.printAll_eq r.screen.sink
    (Statistics.pieces r.context.graph r.context.trace) (Statistics.flatMap_pieces _ _)
  rw [← Statistics.printTo] at left success
  refine ⟨rfl, ?_, isOk_iff.symm.trans success⟩
  rw [left]
  rfl

theorem note_nil (s : Screen) : s.note [] = s := by
  have nothing : s.lines [] = "" := by
    unfold Screen.lines
    split <;> rfl
  rw [Screen.note, nothing, Screen.print, Sink.print_eq, List.flatMap_singleton, Text.bytes_empty,
    Sink.writeAll]

-- Nothing is logged before the statistics.
theorem announce_statistics (r : Run) : r.announce .statistics = r := by
  rw [announce, Artifact.records, List.append_nil, note_nil]

inductive PublishedAs (r : Run) (a : Artifact) (result : Except RunFault Unit) (m : Run) : Prop where
  | file {path text : String} {verdict : Except Fault Unit}
      (asked : a.file? r.context = some (path, text))
      (written : WrittenAs (r.announce a) path text verdict m)
      (named : result = verdict.mapError a.failure)
  | shown {verdict : Except Fault Unit} (asked : a = .statistics)
      (shows : r.ShowsStatistics verdict m) (named : result = verdict.mapError a.failure)

theorem publishedAs (r : Run) (a : Artifact) : PublishedAs r a (r.publish a).1 (r.publish a).2 := by
  cases a with
  | trace path =>
      have written := (r.announce (.trace path)).dump_eq path r.context.trace.dump (.traceDump path)
      rw [publish, written]
      exact .file rfl (writtenAs _ _ _) rfl
  | callGraph path =>
      have written := (r.announce (.callGraph path)).dump_eq path r.context.graph.toDot
        (.callGraphDump path)
      rw [publish, written]
      exact .file rfl (writtenAs _ _ _) rfl
  | statistics =>
      have shows := r.showsStatistics
      rw [publish, announce_statistics, showStatistics_eq]
      generalize Statistics.printTo _ _ _ = answer at shows ⊢
      exact .shown rfl shows rfl

theorem path?_of_file? {a : Artifact} {c : Context} {path text : String}
    (file : a.file? c = some (path, text)) : a.path? = some path := by
  cases a <;> cases file <;> rfl

theorem eq_ok_of_mapError {α β γ : Type} {f : α → β} {x : Except α γ} {c : γ}
    (same : .ok c = x.mapError f) : x = .ok c := by
  cases x with
  | error a => cases same
  | ok c =>
      cases same
      rfl

theorem eq_error_of_mapError {α β γ : Type} {f : α → β} {x : Except α γ} {b : β}
    (same : .error b = x.mapError f) : ∃ a, x = .error a ∧ b = f a := by
  cases x with
  | error a =>
      cases same
      exact ⟨a, rfl, rfl⟩
  | ok c => cases same

namespace PublishedAs

variable {r m : Run} {a : Artifact} {result : Except RunFault Unit}

theorem settles (published : PublishedAs r a result m) : r.Settles a.path?.toList m := by
  have announced : r.Settles [] (r.announce a) := .of_directory rfl rfl rfl
  cases published with
  | file asked written named =>
      rw [path?_of_file? asked]
      exact announced.trans written.settles
  | shown asked shows named =>
      rw [shows.shown]
      exact .of_directory rfl rfl rfl

-- An artifact that cannot be published is named in the fault, and no file comes of it.
theorem failed {fault : RunFault} (published : PublishedAs r a (.error fault) m) :
    (∃ cause, fault = a.failure cause) ∧ m.directory = r.directory := by
  cases published with
  | file asked written named =>
      obtain ⟨cause, rfl, same⟩ := eq_error_of_mapError named
      exact ⟨⟨cause, same⟩, written.directory_of_failed⟩
  | shown asked shows named =>
      obtain ⟨cause, -, same⟩ := eq_error_of_mapError named
      exact ⟨⟨cause, same⟩, by rw [shows.shown]⟩

theorem contents {path text : String} (published : PublishedAs r a (.ok ()) m)
    (file : a.file? r.context = some (path, text)) (replaces : r.directory.Replaces path) :
    m.directory.contents? path = some text := by
  have here : (r.announce a).directory.Replaces path := replaces
  cases published with
  | file asked written named =>
      rw [file] at asked
      cases asked
      obtain rfl := eq_ok_of_mapError named
      exact written.contents here
  | shown asked shows named =>
      rw [asked] at file
      cases file

theorem sink (published : PublishedAs r a result m)
    (replaces : ∀ path, a.path? = some path → r.directory.Replaces path) :
    m.context.sink = r.context.sink := by
  cases published with
  | file asked written named =>
      have here : (r.announce a).directory.Replaces _ := replaces _ (path?_of_file? asked)
      exact written.sink here
  | shown asked shows named => rw [shows.shown]

-- Statistics that are shown are on the screen to the last byte, and nothing is shown behind them.
theorem statistics (published : PublishedAs r .statistics (.ok ()) m) :
    m.screen.shown = r.screen.shown ++ m.statisticsBytes := by
  cases published with
  | file asked written named => cases asked
  | shown asked shows named =>
      obtain ⟨all, -⟩ := shows.all.mp (eq_ok_of_mapError named)
      rw [shows.shown]
      rw [Sink.part, all, List.take_length]
      rfl

end PublishedAs

inductive Publishes : Run → List Artifact → Run → Prop where
  | nil (r : Run) : Publishes r [] r
  | cons {r m l : Run} {a : Artifact} {rest : List Artifact}
      (published : PublishedAs r a (.ok ()) m) (later : Publishes m rest l) :
      Publishes r (a :: rest) l

/-- Artifacts are tried in order: all are published, or the first that fails ends the attempt with a
fault of its own and without a file, and those behind it are not tried. -/
inductive Attempts (r : Run) : List Artifact → Except RunFault Unit × Run → Prop where
  | all {artifacts : List Artifact} {last : Run} (published : Publishes r artifacts last) :
      Attempts r artifacts (.ok (), last)
  | upTo {done later : List Artifact} {a : Artifact} {before last : Run} {cause : Fault}
      (published : Publishes r done before)
      (failed : PublishedAs before a (.error (a.failure cause)) last)
      (unwritten : last.directory = before.directory) :
      Attempts r (done ++ a :: later) (.error (a.failure cause), last)

theorem Attempts.publishes {r : Run} {artifacts : List Artifact} {answer : Except RunFault Unit × Run}
    (attempts : Attempts r artifacts answer) (success : answer.1 = .ok ()) :
    Publishes r artifacts answer.2 := by
  cases attempts with
  | all published => exact published
  | upTo published failed unwritten => cases success

theorem publishAll_attempts (r : Run) (artifacts : List Artifact) :
    Attempts r artifacts (r.publishAll artifacts) := by
  induction artifacts generalizing r with
  | nil => exact .all (.nil r)
  | cons a rest ih =>
      have published := r.publishedAs a
      rw [publishAll]
      -- the first artifact ends the attempt, or the rest is tried from where it left off
      generalize r.publish a = answer at published
      obtain ⟨fault | done, m⟩ := answer
      · obtain ⟨⟨cause, rfl⟩, unwritten⟩ := published.failed
        exact .upTo (.nil r) published unwritten
      · have tail := ih m
        dsimp only
        generalize m.publishAll rest = answer at tail
        cases tail with
        | all later => exact .all (.cons published later)
        | upTo later failed unwritten => exact .upTo (.cons published later) failed unwritten

namespace Publishes

variable {r m : Run} {artifacts more : List Artifact}

theorem append {done : List Artifact} (publishes : Publishes r (done ++ more) m) :
    ∃ l, Publishes r done l ∧ Publishes l more m := by
  induction done generalizing r with
  | nil => exact ⟨r, .nil r, publishes⟩
  | cons a rest ih =>
      cases publishes with
      | cons published later =>
          obtain ⟨l, first, second⟩ := ih later
          exact ⟨l, .cons published first, second⟩

theorem settles (publishes : Publishes r artifacts m) :
    r.Settles (artifacts.flatMap (·.path?.toList)) m := by
  induction publishes with
  | nil r => exact .of_directory rfl rfl rfl
  | cons published later ih => exact published.settles.trans ih

theorem sink (publishes : Publishes r artifacts m)
    (replaces : ∀ path ∈ artifacts.flatMap (·.path?.toList), r.directory.Replaces path) :
    m.context.sink = r.context.sink := by
  induction publishes with
  | nil r => rfl
  | @cons r m l a rest published later ih =>
      have kept : m.context.sink = r.context.sink := by
        apply published.sink
        intro path asked
        exact replaces path (by simp [asked])
      refine (ih ?_).trans kept
      intro path member
      exact published.settles.replaces (replaces path (List.mem_append_right _ member))

-- A file that is published holds its text in the end, unless a later one goes to the same place.
theorem contents {done later : List Artifact} {a : Artifact} {path text : String}
    (publishes : Publishes r (done ++ a :: later) m) (file : a.file? m.context = some (path, text))
    (replaces : r.directory.Replaces path)
    (apart : ∀ other ∈ later.flatMap (·.path?.toList),
      r.directory.place? other ≠ r.directory.place? path) :
    m.directory.contents? path = some text := by
  obtain ⟨l, first, rest⟩ := publishes.append
  cases rest with
  | @cons _ k _ _ _ published after =>
      have one := published.settles
      have late := after.settles
      have early := first.settles.trans one
      have asked : a.file? l.context = some (path, text) := by
        rw [← file, a.file?_congr (late.trace.trans one.trace) (late.graph.trans one.graph)]
      have here := published.contents asked (first.settles.replaces replaces)
      obtain ⟨place, found, read⟩ := Option.bind_eq_some_iff.mp here
      -- all paths lead where they led at first, so the later ones keep off this place
      have kept : m.directory.read? place = k.directory.read? place := by
        apply late.others
        intro other member
        rw [early.places, ← found, early.places]
        exact apart other member
      rw [Directory.contents?, late.places, found, Option.bind_some, kept, read]

theorem statistics {done : List Artifact} (publishes : Publishes r (done ++ [.statistics]) m) :
    m.statisticsBytes <:+ m.screen.shown := by
  obtain ⟨l, -, rest⟩ := publishes.append
  cases rest with
  | cons published after =>
      cases after
      exact ⟨l.screen.shown, published.statistics.symm⟩

end Publishes

end Run
end CaptureProbe
