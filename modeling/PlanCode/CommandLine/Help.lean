/-!
# Help

What is shown of the program and of each command when it is asked for, below the line that tells the
usage. The lines are as wide as 76 columns.
-/
namespace PlanCode.CommandLine.Help

/-- What is shown of the program. -/
def program : List String := [
  "",
  "  JMeter DSL Code Generator - Convert JMeter test plans into jmeter-java-dsl",
  "  code.",
  "",
  "  This tool reads JMX test plans and generates equivalent Java test classes",
  "  using jmeter-java-dsl.",
  "",
  "Options:",
  "  --version  Show the version and exit.",
  "  --help     Show this message and exit.",
  "",
  "Commands:",
  "  convert       Convert a JMX test plan into a jmeter-java-dsl test class.",
  "  mcp           Start MCP Server mode for AI assistant integration.",
  "  thread-group  Print the threadGroup DSL call equivalent to a list of..."]

/-- What is shown of `convert`. -/
def convert : List String := [
  "",
  "  Convert a JMX test plan into a jmeter-java-dsl test class.",
  "",
  "  Without JMX_PATH, the JMX file in the current directory is used, asking",
  "  which one to use when there are several.",
  "",
  "  Example:     jmeter-codegen convert load-test.jmx     jmeter-codegen",
  "  convert load-test.jmx --output src/test/java/LoadTest.java     jmeter-",
  "  codegen convert --class-name CheckoutTest",
  "",
  "Options:",
  "  -o, --output FILE  Output Java file (default: print to console)",
  "  --class-name TEXT  Name of generated test class (default: PerformanceTest)",
  "  --config FILE      Settings file (default: jmeter-codegen.yaml in current",
  "                     directory)",
  "  -v, --verbose      Show debug logs",
  "  --help             Show this message and exit."]

/-- What is shown of `mcp`. -/
def serve : List String := [
  "",
  "  Start MCP Server mode for AI assistant integration.",
  "",
  "  Launches the MCP (Model Context Protocol) server that allows AI assistants",
  "  to convert JMeter test plans into DSL code.",
  "",
  "  Example:     jmeter-codegen mcp",
  "",
  "Options:",
  "  --help  Show this message and exit."]

/-- What is shown of `thread-group`. -/
def threadGroup : List String := [
  "",
  "  Print the threadGroup DSL call equivalent to a list of load stages.",
  "",
  "  Example:     jmeter-codegen thread-group --stage 10:60     jmeter-codegen",
  "  thread-group --stage 0:30 --stage 20::100     jmeter-codegen thread-group",
  "  --stage '10:$\x7b__P(RAMP)\x7d'",
  "",
  "Options:",
  "  --stage TEXT  Load stage as THREADS[:DURATION[:ITERATIONS]], repeatable",
  "                (e.g. 0:30 10:60 10:300)",
  "  --name TEXT   Thread group name (default: Thread Group)",
  "  --help        Show this message and exit."]

end PlanCode.CommandLine.Help
