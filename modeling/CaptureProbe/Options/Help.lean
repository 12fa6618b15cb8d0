import CaptureProbe.Options.Refusal

/-!
The texts that a request for help or for the version is answered with.
-/

namespace CaptureProbe.Options

def shortHelp : String :=
  "probe 0.1.0\n"
    ++ "\n"
    ++ "USAGE:\n"
    ++ "    probe [OPTIONS] [ARGS]... [-- ARGS...]\n"
    ++ "\n"
    ++ "ARGS:\n"
    ++ "    <ARGS>...    Arguments the closure is called with, one call each. [default: 1 2 3]\n"
    ++ "\n"
    ++ "OPTIONS:\n"
    ++ "        --capture <capture>\n"
    ++ "            The value the factory is first called with. [default: 1]\n"
    ++ "\n"
    ++ "        --dump-call-graph <call-graph-output>\n"
    ++ "            Dump the call graph in DOT format to the output file.\n"
    ++ "\n"
    ++ "        --dump-stats\n"
    ++ "            Print statistics of the run to stderr.\n"
    ++ "\n"
    ++ "        --dump-trace <trace-output>\n"
    ++ "            Dump the observation trace as JSON to the output file.\n"
    ++ "\n"
    ++ "        --factory-only\n"
    ++ "            Call the factory once and discard the closure it returns.\n"
    ++ "\n"
    ++ "    -h, --help\n"
    ++ "            Print help information\n"
    ++ "\n"
    ++ "        --mode <mode>\n"
    ++ "            The execution mode deciding the ambient top-level receiver. [default: strict] [possible\n"
    ++ "            values: strict, sloppy, script, module]\n"
    ++ "\n"
    ++ "    -V, --version\n"
    ++ "            Print version information\n"

def longHelp : String :=
  "probe 0.1.0\n"
    ++ "\n"
    ++ "USAGE:\n"
    ++ "    probe [OPTIONS] [ARGS]... [-- ARGS...]\n"
    ++ "\n"
    ++ "ARGS:\n"
    ++ "    <ARGS>...\n"
    ++ "            Arguments the closure is called with, one call each. [default: 1 2 3]\n"
    ++ "\n"
    ++ "OPTIONS:\n"
    ++ "        --capture <capture>\n"
    ++ "            The value the factory is first called with. [default: 1]\n"
    ++ "\n"
    ++ "        --dump-call-graph <call-graph-output>\n"
    ++ "            Dump the call graph in DOT format to the output file.\n"
    ++ "\n"
    ++ "        --dump-stats\n"
    ++ "            Print statistics of the run to stderr.\n"
    ++ "\n"
    ++ "        --dump-trace <trace-output>\n"
    ++ "            Dump the observation trace as JSON to the output file.\n"
    ++ "\n"
    ++ "        --factory-only\n"
    ++ "            Call the factory once and discard the closure it returns.\n"
    ++ "\n"
    ++ "    -h, --help\n"
    ++ "            Print help information\n"
    ++ "\n"
    ++ "        --mode <mode>\n"
    ++ "            strict: the ambient receiver is undefined. sloppy (or script): it is the global object.\n"
    ++ "            module: it is the module's export object.\n"
    ++ "            \n"
    ++ "            [possible values: strict, sloppy, script, module]\n"
    ++ "\n"
    ++ "    -V, --version\n"
    ++ "            Print version information\n"

/-- What is shown for a refusal: an answer for requests, the whole wording for errors. -/
def Refusal.report : Refusal → String
  | .help false => shortHelp
  | .help true => longHelp
  | refusal => refusal.wording ++ "\n"

def Refusal.isRequest : Refusal → Bool
  | .help _ => true
  | .version => true
  | _ => false

end CaptureProbe.Options
