import RequestGate.CommandLine.Arguments

/-!
# Help texts

What the program says about itself, about its commands and about asking for help.
-/

namespace RequestGate
namespace CommandLine

/-- What a command does. -/
def Command.about : Command → String
  | serve => "Validate requests and forward them to the upstream"
  | check => "Compile the description and print the rule table"

/-- Lines as a text. -/
def ofLines (lines : List String) : String :=
  String.join (lines.map (· ++ "\n"))

/-- The help about a topic. -/
def Topic.text : Topic → String
  | .program => ofLines [
      "Validate requests against a Swagger/OpenAPI description",
      "",
      "Usage: openapi-gate [OPTIONS] <COMMAND>",
      "",
      "Commands:",
      "  serve  " ++ Command.serve.about,
      "  check  " ++ Command.check.about,
      "  help   Print this message or the help of the given subcommand(s)",
      "",
      "Options:",
      "  -c, --config <CONFIG>      TOML configuration file",
      "  -s, --spec <SPEC>          Description file (overrides `description.path`)",
      "  -b, --bind <BIND>          Listener address (overrides `listener.bind_address`)",
      "  -u, --upstream <UPSTREAM>  Upstream address (overrides `upstream.address`)",
      "  -h, --help                 Print help"]
  | .command c => ofLines [
      c.about,
      "",
      "Usage: openapi-gate " ++ c.name,
      "",
      "Options:",
      "  -h, --help  Print help"]
  | .help => ofLines [
      "Print this message or the help of the given subcommand(s)",
      "",
      "Usage: openapi-gate help [COMMAND]...",
      "",
      "Arguments:",
      "  [COMMAND]...  Print help for the subcommand(s)"]

end CommandLine
end RequestGate
