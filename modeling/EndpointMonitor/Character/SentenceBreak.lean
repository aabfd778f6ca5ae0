import EndpointMonitor.Character.Runs

/-!
# Bounds of sentences

The value says between which neighbours a sentence may end.
-/

namespace EndpointMonitor.SentenceBreak

/-- The names of the values and their labels. -/
def names : List (String × String) := [
  ("at", "AT"), ("aterm", "AT"), ("cl", "CL"), ("close", "CL"), ("cr", "CR"), ("ex", "EX"),
  ("extend", "EX"), ("fo", "FO"), ("format", "FO"), ("le", "LE"), ("lf", "LF"), ("lo", "LO"),
  ("lower", "LO"), ("nu", "NU"), ("numeric", "NU"), ("oletter", "LE"), ("sc", "SC"),
  ("scontinue", "SC"), ("se", "SE"), ("sep", "SE"), ("sp", "SP"), ("st", "ST"), ("sterm", "ST"),
  ("up", "UP"), ("upper", "UP")]

/-- The runs of one value. Most characters have the value `XX`, which has no name. -/
def table : List String := [
  "9XX1SP1LF2SP1CR12XX1SP1ST1CL4XX3CL2XX2SC1AT1XXaNU2SC3XX1ST1XX1aUP1CL1XX1CL3XX1aLO1CL1XX1CL7XX",
  "1SE1aXX1SP9XX1LO1CL1XX1FO7XX1LO4XX1LO1CL4XX17UP1XX7UP18LO1XX8LO1UP1LO1UP1LO1UP1LO1UP1LO1UP1LO",
  "1UP1LO1UP1LO1UP1LO1UP1LO1UP1LO1UP1LO1UP1LO1UP1LO1UP1LO1UP1LO1UP1LO1UP1LO1UP1LO1UP1LO1UP1LO1UP",
  "1LO1UP1LO1UP1LO1UP1LO1UP1LO1UP1LO1UP1LO1UP2LO1UP1LO1UP1LO1UP1LO1UP1LO1UP1LO1UP1LO1UP1LO1UP2LO",
  "1UP1LO1UP1LO1UP1LO1UP1LO1UP1LO1UP1LO1UP1LO1UP1LO1UP1LO1UP1LO1UP1LO1UP1LO1UP1LO1UP1LO1UP1LO1UP",
  "1LO1UP1LO1UP1LO1UP1LO1UP1LO1UP1LO1UP1LO1UP1LO2UP1LO1UP1LO1UP3LO2UP1LO1UP1LO2UP1LO3UP2LO4UP1LO",
  "2UP1LO3UP3LO2UP1LO2UP1LO1UP1LO1UP1LO2UP1LO1UP2LO1UP1LO2UP1LO3UP1LO1UP1LO2UP2LO1LE1UP3LO4LE2UP",
  "1LO2UP1LO2UP1LO1UP1LO1UP1LO1UP1LO1UP1LO1UP1LO1UP1LO1UP1LO1UP2LO1UP1LO1UP1LO1UP1LO1UP1LO1UP1LO",
  "1UP1LO1UP1LO1UP1LO1UP2LO2UP1LO1UP1LO3UP1LO1UP1LO1UP1LO1UP1LO1UP1LO1UP1LO1UP1LO1UP1LO1UP1LO1UP",
  "1LO1UP1LO1UP1LO1UP1LO1UP1LO1UP1LO1UP1LO1UP1LO1UP1LO1UP1LO1UP1LO1UP1LO1UP1LO1UP1LO1UP1LO1UP1LO",
  "1UP1LO1UP1LO1UP1LO1UP1LO1UP7LO2UP1LO2UP2LO1UP1LO4UP1LO1UP1LO1UP1LO1UP1LO1UP45LO1LE24LO7LE2LO",
  "4XXcLEeXX5LO7XX1LE1XX1LE11XX70EX1UP1LO1UP1LO1LE1XX1UP1LO2XX4LO1SC1UP6XX1UP1XX3UP1XX1UP1XX2UP",
  "1LO11UP1XX9UP23LO1UP2LO3UP3LO1UP1LO1UP1LO1UP1LO1UP1LO1UP1LO1UP1LO1UP1LO1UP1LO1UP1LO1UP1LO1UP",
  "1LO1UP5LO1UP1LO1XX1UP1LO2UP2LO33UP30LO1UP1LO1UP1LO1UP1LO1UP1LO1UP1LO1UP1LO1UP1LO1UP1LO1UP1LO",
  "1UP1LO1UP1LO1UP1LO1UP1LO1UP1LO1UP1LO1UP1LO1UP1LO1XX7EX1UP1LO1UP1LO1UP1LO1UP1LO1UP1LO1UP1LO1UP",
  "1LO1UP1LO1UP1LO1UP1LO1UP1LO1UP1LO1UP1LO1UP1LO1UP1LO1UP1LO1UP1LO1UP1LO1UP1LO1UP1LO1UP1LO1UP1LO",
  "1UP1LO1UP1LO1UP1LO1UP1LO1UP1LO2UP1LO1UP1LO1UP1LO1UP1LO1UP1LO1UP1LO1UP2LO1UP1LO1UP1LO1UP1LO1UP",
  "1LO1UP1LO1UP1LO1UP1LO1UP1LO1UP1LO1UP1LO1UP1LO1UP1LO1UP1LO1UP1LO1UP1LO1UP1LO1UP1LO1UP1LO1UP1LO",
  "1UP1LO1UP1LO1UP1LO1UP1LO1UP1LO1UP1LO1UP1LO1UP1LO1UP1LO1UP1LO1UP1LO1UP1LO1UP1LO1UP1LO1UP1LO1UP",
  "1LO1UP1LO1UP1LO1UP1LO1UP1LO1UP1LO1UP1LO1UP1LO1UP1LO1UP1LO1UP1LO1UP1LO1UP1LO1UP1LO1XX26UP2XX1LE",
  "3XX1SC2XX29LO1ST7XX2dEX1XX1EX1XX2EX1XX2EX1XX1EX8XX1bLE4XX5LEcXX6NU6XX2SC2XXbEX1XX1FO3ST2bLE",
  "15EXaNU1XX2NU1XX2LE1EX63LE1ST1LE7EX1NU1XX6EX2LE2EX1XX4EX2LEaNU3LE2XX1LE3STcXX1FO1LE1EX1eLE1bEX",
  "2XX59LEbEX1LEeXXaNU21LE9EX2LE2XX1SC1ST1LE2XX1EX2XX16LE4EX1LE9EX1LE3EX1LE5EX9XX1ST1XX1ST3XX2ST",
  "1XX19LE3EX4XXbLE5XX18LE1XX6LE1XX2NU5XX9EX2aLE18EX1NU21EX36LE3EX1LE12EX1LE7EXaLE2EX2STaNU1XX",
  "10LE3EX1XX8LE2XX2LE2XX16LE1XX7LE1XX1LE3XX4LE2XX1EX1LE7EX2XX2EX2XX3EX1LE8XX1EX4XX2LE1XX3LE2EX",
  "2XXaNU2LEaXX1LE1XX1EX2XX3EX1XX6LE4XX2LE2XX16LE1XX7LE1XX2LE1XX2LE1XX2LE2XX1EX1XX5EX4XX2EX2XX3EX",
  "3XX1EX7XX4LE1XX1LE7XXaNU2EX3LE1EXbXX3EX1XX9LE1XX3LE1XX16LE1XX7LE1XX2LE1XX5LE2XX1EX1LE8EX1XX3EX",
  "1XX3EX2XX1LEfXX2LE2EX2XXaNU9XX1LE6EX1XX3EX1XX8LE2XX2LE2XX16LE1XX7LE1XX2LE1XX5LE2XX1EX1LE7EX2XX",
  "2EX2XX3EX7XX3EX4XX2LE1XX3LE2EX2XXaNU1XX1LE10XX1EX1LE1XX6LE3XX3LE1XX4LE3XX2LE1XX1LE1XX2LE3XX2LE",
  "3XX3LE3XXcLE4XX5EX3XX3EX1XX4EX2XX1LE6XX1EXeXXaNU10XX5EX8LE1XX3LE1XX17LE1XX10LE2XX1EX1LE7EX1XX",
  "3EX1XX4EX7XX2EX1XX3LE2XX1LE2XX2LE2EX2XXaNU10XX1LE3EX1XX8LE1XX3LE1XX17LE1XXaLE1XX5LE2XX1EX1LE",
  "7EX1XX3EX1XX4EX7XX2EX6XX2LE1XX2LE2EX2XXaNU1XX2LE1EXcXX4EX9LE1XX3LE1XX29LE2EX1LE7EX1XX3EX1XX4EX",
  "1LE5XX3LE1EX7XX3LE2EX2XXaNUaXX6LE1XX3EX1XX12LE3XX18LE1XX9LE1XX1LE2XX7LE3XX1EX4XX6EX1XX1EX1XX",
  "8EX6XXaNU2XX2EXdXX30LE1EX2LE7EX5XX7LE8EX1XXaNU27XX2LE1XX1LE1XX5LE1XX18LE1XX1LE1XXaLE1EX2LE9EX",
  "1LE2XX5LE1XX1LE1XX7EX1XXaNU2XX4LE20XX1LE17XX2EX6XXaNUbXX1EX1XX1EX1XX1EX4CL2EX8LE1XX24LE4XX14EX",
  "1XX2EX5LEbEX1XX24EX9XX1EX39XX2bLE14EX1LEaNU2ST4XX6LE4EX4LE3EX1LE3EX2LE7EX3LE4EXdLEcEX1LE1EXaNU",
  "4EX2XX26UP1XX1UP5XX1UP2XX2bLE1XX1LO14cLE1XX4LE2XX7LE1XX1LE1XX4LE2XX29LE1XX4LE2XX21LE1XX4LE2XX",
  "7LE1XX1LE1XX4LE2XXfLE1XX39LE1XX4LE2XX43LE2XX3EX2XX1ST4XX2ST17XX10LE10XX56UP2XX6LO3XX26cLE1XX",
  "1ST11LE1SP1aLE2CL3XX4bLE3XXbLE7XX12LE4EX9XX13LE3EX2ST9XX12LE2EXcXXdLE1XX3LE1XX2EXcXX34LE20EX",
  "2ST1XX1LE4XX1LE1EX2XXaNU18XX1SC1ST4XX1SC1ST1XX3EX1FO1EXaNU6XX59LE7XX5LE2EX22LE1EX1LE5XX46LEaXX",
  "1fLE1XXcEX4XXcEX8XX2STaNU1eLE2XX5LEbXX2cLE4XX1aLE6XXbNU25XX17LE5EX4XX35LEaEX1XX1dEX2XX1EXaNU",
  "6XXaNUdXX1LE4ST4XX1fEX31XX5EX2fLE11EX8LE1XX2STaNU2ST2XX2STbXX9EX9XX3ST3EX1eLEdEX2LEaNU2cLEeEX",
  "cXX24LE14EX3XX2ST3XXaNU3XX3LEaNU24LE2ST9LO1UP1LO5XX2bLE2XX3LE10XX3EX1XX15EX4LE1EX6LE1EX2LE3EX",
  "1LE5XXc0LO40EX1UP1LO1UP1LO1UP1LO1UP1LO1UP1LO1UP1LO1UP1LO1UP1LO1UP1LO1UP1LO1UP1LO1UP1LO1UP1LO",
  "1UP1LO1UP1LO1UP1LO1UP1LO1UP1LO1UP1LO1UP1LO1UP1LO1UP1LO1UP1LO1UP1LO1UP1LO1UP1LO1UP1LO1UP1LO1UP",
  "1LO1UP1LO1UP1LO1UP1LO1UP1LO1UP1LO1UP1LO1UP1LO1UP1LO1UP1LO1UP1LO1UP1LO1UP1LO1UP1LO1UP1LO1UP1LO",
  "1UP1LO1UP1LO1UP1LO1UP1LO1UP1LO1UP1LO1UP1LO1UP1LO1UP1LO1UP1LO1UP1LO1UP1LO1UP1LO1UP1LO1UP1LO1UP",
  "1LO1UP1LO1UP1LO1UP1LO1UP1LO1UP1LO1UP1LO1UP1LO1UP1LO1UP1LO1UP1LO1UP1LO1UP1LO1UP1LO1UP1LO1UP9LO",
  "1UP1LO1UP1LO1UP1LO1UP1LO1UP1LO1UP1LO1UP1LO1UP1LO1UP1LO1UP1LO1UP1LO1UP1LO1UP1LO1UP1LO1UP1LO1UP",
  "1LO1UP1LO1UP1LO1UP1LO1UP1LO1UP1LO1UP1LO1UP1LO1UP1LO1UP1LO1UP1LO1UP1LO1UP1LO1UP1LO1UP1LO1UP1LO",
  "1UP1LO1UP1LO1UP1LO1UP1LO1UP1LO1UP1LO1UP1LO1UP1LO1UP1LO1UP1LO1UP1LO1UP1LO1UP1LO1UP1LO1UP1LO1UP",
  "1LO1UP1LO1UP9LO8UP6LO2XX6UP2XX8LO8UP8LO8UP6LO2XX6UP2XX8LO1XX1UP1XX1UP1XX1UP1XX1UP8LO8UPeLO2XX",
  "8LO8UP8LO8UP8LO8UP5LO1XX2LO5UP1XX1LO3XX3LO1XX2LO5UP3XX4LO2XX2LO4UP4XX8LO5UP5XX3LO1XX2LO5UP3XX",
  "bSP1FO2EX2FO3XX2SC3XX8CL4XX1AT3XX2SE5FO1SP9XX2CL1XX2ST7XX2CL3ST15XX1SP5FO1XXaFO1XX1LObXX2CL1LO",
  "dXX2CL1XXdLO33XX21EX11XX1UP4XX1UP2XX1LO3UP2LO3UP1LO1XX1UP3XX5UP6XX1UP1XX1UP1XX1UP1XX4UP1XX1LO",
  "4UP1LO4LE1LO2XX2LO2UP5XX1UP4LO4XX1LO11XX10UP10LO3LE1UP1LO4LE17fXX4CL1dXX2CL18bXX1aUP1aLO271XX",
  "6CL7XXeCL4fXX2CL1fXXaCL193XX16CL3fXX4CL20XX2CL202XX30UP30LO1UP1LO3UP2LO1UP1LO1UP1LO1UP1LO4UP",
  "1LO1UP2LO1UP8LO3UP1LO1UP1LO1UP1LO1UP1LO1UP1LO1UP1LO1UP1LO1UP1LO1UP1LO1UP1LO1UP1LO1UP1LO1UP1LO",
  "1UP1LO1UP1LO1UP1LO1UP1LO1UP1LO1UP1LO1UP1LO1UP1LO1UP1LO1UP1LO1UP1LO1UP1LO1UP1LO1UP1LO1UP1LO1UP",
  "1LO1UP1LO1UP1LO1UP1LO1UP1LO1UP1LO1UP1LO1UP1LO1UP1LO1UP1LO1UP1LO1UP1LO1UP1LO1UP1LO1UP1LO1UP1LO",
  "1UP1LO1UP1LO1UP1LO1UP1LO1UP1LO1UP2LO6XX1UP1LO1UP1LO3EX1UP1LO5XX3ST4XX26LO1XX1LO5XX1LO2XX38LE",
  "7XX1LEfXX1EX17LE9XX7LE1XX7LE1XX7LE1XX7LE1XX7LE1XX7LE1XX7LE1XX7LE1XX20EXeCLeXX2CL2XXaCL4XX1ST",
  "1LEcXX1ST5XX1CL10XX2ST8CL1a3XX1SP1SC1ST2XX3LEaCL2XX8CL1XX3CL1XX9LE6EX1XX5LE2XX5LE4XX56LE2XX2EX",
  "2XX3LE1XX5aLE1XX4LE5XX2bLE1XX5eLE11XX20LE30XX10LE200XX19c0LE40XX568dLE43XX2eLE1XX1ST10dLE1XX",
  "2ST10LEaNU2LE14XX1UP1LO1UP1LO1UP1LO1UP1LO1UP1LO1UP1LO1UP1LO1UP1LO1UP1LO1UP1LO1UP1LO1UP1LO1UP",
  "1LO1UP1LO1UP1LO1UP1LO1UP1LO1UP1LO1UP1LO1UP1LO1UP1LO1UP1LO1UP1LO1LE4EX1XXaEX1XX1LE1UP1LO1UP1LO",
  "1UP1LO1UP1LO1UP1LO1UP1LO1UP1LO1UP1LO1UP1LO1UP1LO1UP1LO1UP1LO1UP1LO1UP3LO2EX50LE2EX1XX1ST3XX1ST",
  "1fXX9LE2XX1UP1LO1UP1LO1UP1LO1UP1LO1UP1LO1UP1LO1UP3LO1UP1LO1UP1LO1UP1LO1UP1LO1UP1LO1UP1LO1UP1LO",
  "1UP1LO1UP1LO1UP1LO1UP1LO1UP1LO1UP1LO1UP1LO1UP1LO1UP1LO1UP1LO1UP1LO1UP1LO1UP1LO1UP1LO1UP1LO1UP",
  "1LO1UP1LO1UP1LO1UP1LO1UP1LO1UP1LO1UP1LO1UP1LO1UPaLO1UP1LO1UP1LO2UP1LO1UP1LO1UP1LO1UP1LO1UP1LO",
  "1LE2XX1UP1LO1UP1LO1LE1UP1LO1UP3LO1UP1LO1UP1LO1UP1LO1UP1LO1UP1LO1UP1LO1UP1LO1UP1LO1UP1LO1UP1LO",
  "5UP1LO5UP1LO1UP1LO1UP1LO1UP1LO1UP1LO1UP1LO1UP1LO1UP1LO4UP1LO1UP1LO2UP1LO2XX1UP1LO1XX1LO1XX1LO",
  "1UP1LO1UP1LO1UP1LO1UP15XX3LO1UP1LO1LE3LO7LE1EX3LE1EX4LE1EX17LE5EX4XX1EX13XX34LE2XX2ST8XX2EX",
  "32LE12EX8XX2STaNU6XX12EX6LE3XX1LE1XX2LE1EXaNU1cLE8EX1XX1ST17LEdEXcXX1dLE3XX4EX2fLEeEX7XX2ST5XX",
  "1LEaNU6XX5LE1EXaLEaNU5LE1XX29LEeEX9XX3LE1EX8LE2EX2XXaNU3XX3ST17LE3XX1LE3EX32LE1EX1LE3EX2LE2EX",
  "5LE2EX1LE1EX1LE18XX3LE2XXbLE5EX2ST3LE2EXaXX6LE2XX6LE2XX6LE9XX7LE1XX7LE1XX2bLO1XXeLO6XX50LO23LE",
  "8EX1ST2EX2XXaNU6XX2ba4LEcXX17LE4XX31LE2104XX16eLE2XX6aLE26XX7LOcXX5LO5XX1LE1EXaLE1XXdLE1XX5LE",
  "1XX1LE1XX2LE1XX2LE1XX6cLE21XX16bLE2CL10XX40LE2XX36LE28XXcLE4XX10EX2SC1ST2SC2ST2CL7XX10EX1XX2SC",
  "2XX10CL2XX2CL7XX2SC1AT1XX2SC2ST1SC6CL4XX1SCcXX5LE1XX87LE2XX1FO1XX1ST6XX2CL2XX2SC1AT1XXaNU2SC",
  "3XX1ST1XX1aUP1CL1XX1CL3XX1aLO1CL1XX1CL1XX2CL1ST2CL1SC1XX38LE2EX1fLE3XX6LE2XX6LE2XX6LE2XX3LE",
  "1cXX3FO4XXcLE1XX1aLE1XX13LE1XX2LE1XXfLE2XXeLE22XX7bLE45XX35LE88XX1EX82XX1dLE3XX31LEfXX1EX1fXX",
  "20LEdXX1eLE5XX26LE5EX5XX1eLE2XX24LE4XX8LE1XX5LE2aXX28UP28LO4eLE2XXaNU6XX24UP4XX24LO4XX28LE8XX",
  "34LEcXXbUP1XXfUP1XX7UP1XX2UP1XXbLO1XXfLO1XX7LO1XX2LO3XX34LEcXX137LE9XX16LEaXX8LE18XX1LO2LE3LO",
  "1XX2aLO1XX9LO45XX6LE2XX1LE1XX2cLE1XX2LE3XX1LE2XX17LEaXX17LE9XX1fLE41XX13LE1XX2LEaXX16LEaXX1aLE",
  "46XX38LE6XX2LE40XX1LE3EX1XX2EX5XX4EX4LE1XX3LE1XX1dLE2XX3EX4XX1EX16XX2ST8XX1dLE3XX1dLE23XX8LE",
  "1XX1cLE2EX19XX36LEaXX16LEaXX13LEdXX12LE6eXX49LE37XX33UPdXX33LOdXX24LE4EX8XXaNU6XXaNU6LE16UP3XX",
  "5EX1XX1LE16LOfaXX2aLE1XX2EX3XX2LE10XX3LE37XX4EX1dLEaXX1LE8XX16LEbEX4XX5ST16XX12LE4EX4ST26XX",
  "15LE1bXX17LE9XX3EX35LEfEX2ST1dXXaNU1EX2LE2EX1LE9XX4EX2dLEbEX2XX1NU4ST1EXaXX1NU2XX19LE7XXaNU6XX",
  "3EX24LEeEX1XXaNU1XX3ST1LE2EX1LE8XX23LE1EX2XX1LE9XX3EX30LEeEX4LE2ST2XX4EX1ST2EXaNU1LE1XX1LE1XX",
  "2ST20XX12LE1XX19LEcEX2ST1XX2ST1XX1EX2LE1EX3eXX7LE1XX1LE1XX4LE1XXfLE1XXaLE1ST6XX2fLEcEX5XXaNU",
  "6XX4EX1XX8LE2XX2LE2XX16LE1XX7LE1XX2LE1XX5LE1XX2EX1LE7EX2XX2EX2XX3EX2XX1LE6XX1EX5XX5LE2EX2XX7EX",
  "3XX5EXbXXaLE1XX1LE2XX1LE1XX26LE1XX1LE9EX1XX1EX2XX1EX1XX4EX1XX5EX1LE1EX1LE2STbXX2EX1dXX35LE12EX",
  "4LE2ST3XXaNU4XX1EX3LE1eXX30LE14EX2LE1XX1LE8XXaNUa6XX2fLE7EX2XX9EX1XX2ST5XXfST4LE2EX22XX30LE",
  "11EX2ST1XX1LEbXXaNU26XX2bLEdEX1LE7XXaNU6XX14NU1cXX1bLE2XXfEX4XXaNU2XX3ST1XX7LEb9XX2cLEfEX65XX",
  "20UP20LOaNU15XX8LE2XX1LE2XX8LE1XX2LE1XX18LE6EX1XX2EX2XX4EX1LE1EX1LE2EX1ST1XX1ST9XXaNU46XX8LE",
  "2XX27LE7EX2XX7EX1LE1XX1LE1EX1bXX1LEaEX28LE7EX1LE4EX3XX2ST3XX1EX8XX1LEbEX2eLE10EX1XX2ST1LE12XX",
  "49LEc7XX21LEfXXaNU6XX9LE1XX25LE8EX1XX8EX1LE2STdXXaNU18XX1eLE2XX16EX1XXeEX49XX7LE1XX2LE1XX26LE",
  "6EX3XX1EX1XX2EX1XX7EX1LE1EX8XXaNU6XX6LE1XX2LE1XX20LE5EX1XX2EX1XX5EX1LE7XXaNU136XX13LE4EX2ST7XX",
  "2EX1LE1EXdLE1XX22LE7EX3XX5EX2STbXXaNU1EX55XX1LE4fXX39aLE66XX6fLE11XXc4LEa4cXX61LEfXX430LE10FO",
  "1EX6LEfEXaXXf9bLE5XX247LE1ab9XX1eLE12EXaNU6c6XX239LE7XX1fLE1XXaNU4XX2ST4fLE1XXaNU6XX1eLE2XX5EX",
  "1STaXX30LE7EX2ST7XX4LE1STbXXaNU9XX15LE5XX13LE1b0XX2dLE1XX2STaNUc6XX20UP20LO18XX1ST67XX4bLE4XX",
  "1EX1LE37EX7XX4EXdLE40XX2LE1XX1LE1EXbXX2EXeXX17f8LE8XX4d6LE29XXaLE22e7XX4LE1XX7LE1XX2LE1XX123LE",
  "fXX1LE1dXX3LE2XX1LEeXX4LE8XX18cLE904XX6bLE5XXdLE3XX9LE7XXaLE3XX2EX1ST4FO104cXXaNU206XX2eEX2XX",
  "17EX21eXX5EX3XX6EX8FO8EX2XX7EX1eXX4EX94XX3EX1bbXX1aUP1aLO1aUP7LO1XX12LO1aUP1aLO1UP1XX2UP2XX1UP",
  "2XX2UP2XX4UP1XX8UP4LO1XX1LO1XX7LO1XXbLO1aUP1aLO2UP1XX4UP2XX8UP1XX7UP1XX1aLO2UP1XX4UP1XX5UP1XX",
  "1UP3XX7UP1XX1aLO1aUP1aLO1aUP1aLO1aUP1aLO1aUP1aLO1aUP1aLO1aUP1cLO2XX19UP1XX19LO1XX6LO19UP1XX",
  "19LO1XX6LO19UP1XX19LO1XX6LO19UP1XX19LO1XX6LO19UP1XX19LO1XX6LO1UP1LO2XX32NU200XX37EX4XX32EX8XX",
  "1EXeXX1EX3XX1ST12XX5EX1XXfEX450XXaLO1LE14LO6XX6LOd5XX7EX1XX11EX2XX7EX1XX2EX1XX5EX5XX3eLO21XX",
  "1EX70XX2dLE3XX7EX7LE2XXaNU4XX1LE141XX1eLE1EX11XX2cLE4EXaNU1d6XX1cLE4EXaNUd6XX1eLE2EX1LEaNU",
  "1e5XX7LE1XX4LE1XX2LE1XXfLE1XXc5LEbXX7EX29XX22UP22LO7EX1LE4XXaNU4a6XX4LE1XX1bLE1XX2LE1XX1LE2XX",
  "1LE1XXaLE1XX4LE1XX1LE1XX1LE6XX1LE4XX1LE1XX1LE1XX1LE1XX3LE1XX2LE1XX1LE2XX1LE1XX1LE1XX1LE1XX1LE",
  "1XX1LE1XX2LE1XX1LE2XX4LE1XX7LE1XX4LE1XX4LE1XX1LE1XXaLE1XX11LE5XX3LE1XX5LE1XX11LE274XX1aUP6XX",
  "1aUP6XX1aUP4ecXX3CL577XXaNU406XXa6e0LE20XX103aLE6XXdeLE2XX1682LEeXX1d31LEfXX26eLE9a2XX21eLE",
  "5e2XX134bLE5XX1060LEadc51XX1FO1eXX60EX80XXf0EX2fe10XX"]

/-- The characters with a value, by its name. -/
def ofName? (name : String) : Option CodeSet :=
  Run.named? names (Run.ofTable 2 table) name

end EndpointMonitor.SentenceBreak
