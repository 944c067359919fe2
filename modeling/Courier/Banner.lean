/-!
The version of the program, and the banner and the status words of its command line.
-/

namespace Courier

def version : String := "0.1.0"

namespace Banner

def lines : List String :=
  ["                 __ _   ",
    " __      _____  / _| |_ ",
    " \\ \\ /\\ / / _ \\| |_| __|",
    "  \\ V  V /  __/|  _| |_ ",
    "   \\_/\\_/ \\___||_|  \\__|"]

/-- The banner without colours. -/
def text : String := "\n" ++ String.join (lines.map (· ++ "\n")) ++ "\n"

/-- A word in bold for the terminal. -/
def status (word : String) : String := "\x1b[;1m" ++ word ++ "\x1b[0m"

end Banner
end Courier
