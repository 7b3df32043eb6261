import Breadboard.Response.Basic

/-! The mappings of a stock board: its firmware version, its settings, its outputs and its nets. -/

namespace Breadboard.Mappings

def settingsDump : List String := [
  "", "", "copy / edit / paste any of these lines", "into the main menu to change a setting", "",
  "Jumperless Config:", "", "", "\x60[config] firmware_version = 5.2.2.0;", "",
  "\x60[hardware] generation = 5;", "\x60[hardware] revision = 5;",
  "\x60[hardware] probe_revision = 5;", "",
  "\x60[dacs] dac0_voltage = \x7b\x7bdac_voltage:0\x7d\x7d;",
  "\x60[dacs] dac1_voltage = \x7b\x7bdac_voltage:1\x7d\x7d;",
  "\x60[dacs] top_rail_voltage = \x7b\x7bdac_voltage:TOP_RAIL\x7d\x7d;",
  "\x60[dacs] bottom_rail_voltage = \x7b\x7bdac_voltage:BOTTOM_RAIL\x7d\x7d;", ""]

def netTable : List String := [
  "Python> >print_nets()", "Index\tName\t\tVoltage\t\tNodes", "1\tGND\t\t 0 V         GND",
  "2\tTop Rail\t \x7b\x7bdac_value:TOP_RAIL\x7d\x7d V      TOP_R",
  "3\tBottom Rail\t \x7b\x7bdac_value:BOTTOM_RAIL\x7d\x7d V      BOT_R",
  "4\tDAC 0\t\t \x7b\x7bdac_value:0\x7d\x7d V      DAC_0",
  "5\tDAC 1\t\t \x7b\x7bdac_value:1\x7d\x7d V      DAC_1", ""]

def lines (ls : List String) : Text := ls.flatMap fun l => text l ++ text "\r\n"

def stock : Mappings := [
  { request := text "?"
    responses := [.ofText (lines ["Jumperless firmware version: 5.2.2.0"]) 1]
    manner := { delay := 0.010, jitter := 0.005 } },
  { request := text "~"
    responses := [.ofText (lines settingsDump) 1]
    manner := { delay := 0.015, jitter := 0.005 } },
  { request := text ">dac_get\\((\\d+)\\)"
    isPattern := true
    responses := [.ofText (lines ["Python> >dac_get($1)", "\x7b\x7bdac_voltage:$1\x7d\x7d"]) 1]
    manner := { delay := 0.005, jitter := 0.002 } },
  { request := text ">print_nets()"
    responses := [.ofText (lines netTable) 1]
    manner := { delay := 0.020, jitter := 0.010 } }]

end Breadboard.Mappings
