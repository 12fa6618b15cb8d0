import CaptureProbe.Directory

/-!
The directory tree of a machine around the directory in which a program runs: what is found in every
such tree, the devices among it, and the places by which a process finds itself.
-/

namespace CaptureProbe.Machine

/-- The directory of the process that runs, and that of its thread. They go by numbers; these names have
a slash, so that no path names them. -/
def process : Place := ["proc", "/process"]

def thread : Place := process ++ ["task", "/thread"]

def members : List Place := [process, thread]

def folders : List Place := [
  ["boot"], ["dev"], ["dev", "pts"], ["dev", "shm"], ["etc"], ["home"], ["media"], ["mnt"], ["opt"],
  ["proc"], ["root"], ["run"], ["run", "lock"], ["srv"], ["sys"], ["tmp"], ["usr"], ["usr", "bin"],
  ["usr", "games"], ["usr", "include"], ["usr", "lib"], ["usr", "lib64"], ["usr", "libexec"],
  ["usr", "local"], ["usr", "sbin"], ["usr", "share"], ["usr", "src"], ["var"], ["var", "cache"],
  ["var", "lib"], ["var", "log"], ["var", "tmp"], process, process ++ ["task"], thread]
  ++ members.map (· ++ ["fd"])

def links (home : Place) : List (Place × List String) := [
  (["bin"], ["usr", "bin"]), (["lib"], ["usr", "lib"]), (["lib64"], ["usr", "lib64"]),
  (["sbin"], ["usr", "sbin"]), (["var", "lock"], ["run", "lock"]), (["var", "run"], ["run"]),
  (["dev", "fd"], ["proc", "self", "fd"]), (["dev", "stdin"], ["proc", "self", "fd", "0"]),
  (["dev", "stdout"], ["proc", "self", "fd", "1"]), (["dev", "stderr"], ["proc", "self", "fd", "2"]),
  (["proc", "self"], process), (["proc", "thread-self"], thread)]
  ++ members.flatMap fun place => [(place ++ ["cwd"], home), (place ++ ["root"], [])]

/-- The devices. The input of the program is one that takes everything. -/
def devices : List (Place × Device) := [
  (["dev", "null"], .null), (["dev", "zero"], .null), (["dev", "random"], .null),
  (["dev", "urandom"], .null), (["dev", "full"], .full), (["dev", "tty"], .terminal)]
  ++ members.flatMap fun place => [
    (place ++ ["fd", "0"], .null), (place ++ ["fd", "1"], .output), (place ++ ["fd", "2"], .errors)]

def sealed : List (Place × Fault) := [
  (["proc"], .noSuchFile), (["sys"], .readOnly), (["dev", "pts"], .notPermitted)]

def directory (home : Place) (inside : List String) : Directory :=
  { home := home
    folders := folders ++ [home] ++ inside.map fun name => home ++ [name]
    links := links home
    devices := devices
    sealed := sealed }

end CaptureProbe.Machine
