import StimulusBench.Stimulus

/-!
# `StimulusBench.Testbench` — simulation testbenches in VHDL

A testbench drives the recognizer entity with a flat list of records: every record sets `reset`,
`number` and `first` for one clock period, and a record with an assertion checks both outputs after
that period.

## Contents
- **Options.** `Testbench` holds the entity name and the clock period.
- **Lines.** `Testbench.recordLines` writes one record, `Testbench.lines` the whole file.
-/

namespace StimulusBench

/-- The entity under test and its clock. -/
structure Testbench where
  entity : String
  clockPeriodNs : Nat
  deriving Repr, DecidableEq

namespace Testbench

/-- The entity name unless another one is given. -/
def defaultEntity : String := "SequenceRecognizer"

/-- The clock period unless another one is given. -/
def defaultClockPeriodNs : Nat := 10

/-- The testbench of the default entity. -/
def default : Testbench := ⟨defaultEntity, defaultClockPeriodNs⟩

/-- A bit as a character. -/
def bit (b : Bool) : Char := if b then '1' else '0'

/-- A line that assigns a bit to a signal. -/
def drive (signal : String) (b : Bool) : String :=
  "        " ++ signal ++ " <= '" ++ String.ofList [bit b] ++ "';"

/-- A line that checks an output. -/
def check (signal title : String) (b : Bool) : String :=
  "        assert " ++ signal ++ " = '" ++ String.ofList [bit b] ++ "' report \"" ++ title
    ++ " error\" severity error;"

/-- The line that lets one clock period pass. -/
def waitLine : String := "        wait for CLK_PERIOD;"

/-- The lines of one record. -/
def recordLines (r : Record) : List String :=
  ["",
    drive "reset" r.isReset,
    "        number <= x\"" ++ String.ofList (Numeral.hexByte r.value) ++ "\";",
    drive "first" r.start,
    waitLine]
  ++ (match r.extra with
    | none => []
    | some a => [check "unlock" "Unlock" a.unlock, check "warning" "Warning" a.warning])

/-- The lines in front of the records. -/
def preamble (bench : Testbench) : List String :=
  let entity := bench.entity
  ["LIBRARY IEEE;",
    "USE IEEE.STD_LOGIC_1164.ALL;",
    "USE IEEE.NUMERIC_STD.ALL;",
    "",
    "ENTITY " ++ entity ++ "_tb IS",
    "END " ++ entity ++ "_tb;",
    "",
    "ARCHITECTURE behavior OF " ++ entity ++ "_tb IS",
    "",
    "    COMPONENT " ++ entity,
    "    PORT(",
    "        clk : IN std_logic;",
    "        reset : IN std_logic;",
    "        number : IN std_logic_vector(7 DOWNTO 0);",
    "        first : IN std_logic;",
    "        unlock : OUT std_logic;",
    "        warning : OUT std_logic",
    "    );",
    "    END COMPONENT;",
    "",
    "    signal clk : std_logic := '0';",
    "    signal reset : std_logic := '0';",
    "    signal number : std_logic_vector(7 DOWNTO 0) := (others => '0');",
    "    signal first : std_logic := '0';",
    "",
    "    signal unlock : std_logic;",
    "    signal warning : std_logic;",
    "",
    "    constant CLK_PERIOD : time := " ++ Numeral.decimalText bench.clockPeriodNs ++ " ns;",
    "",
    "BEGIN",
    "",
    "    uut: " ++ entity ++ " PORT MAP (",
    "        clk => clk,",
    "        reset => reset,",
    "        number => number,",
    "        first => first,",
    "        unlock => unlock,",
    "        warning => warning",
    "    );",
    "",
    "    clk_process: process",
    "    begin",
    "        clk <= '0';",
    "        wait for CLK_PERIOD/2;",
    "        clk <= '1';",
    "        wait for CLK_PERIOD/2;",
    "    end process;",
    "",
    "    stim_proc: process",
    "    begin",
    "        reset <= '1';",
    waitLine]

/-- The lines behind the records. -/
def closing : List String :=
  ["        wait;",
    "    end process;",
    "end behavior;"]

/-- The lines of a testbench that drives the records in order. -/
def lines (bench : Testbench) (records : List Record) : List String :=
  bench.preamble ++ records.flatMap recordLines ++ closing

/-- Lines, each with its line break. -/
def unlines (ls : List String) : String := String.join (ls.map (· ++ "\n"))

/-- The text of a testbench that drives the records in order. -/
def render (bench : Testbench) (records : List Record) : String :=
  unlines (bench.lines records)

end Testbench

end StimulusBench
