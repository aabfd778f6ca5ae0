import EndpointMonitor.Character.Runs

/-!
# Bounds of words in running text

The value says between which neighbours a word may end.
-/

namespace EndpointMonitor.WordBreak

/-- The names of the values and their labels. -/
def names : List (String × String) := [
  ("aletter", "LE"), ("cr", "CR"), ("doublequote", "DQ"), ("dq", "DQ"), ("ex", "EX"),
  ("extend", "XT"), ("extendnumlet", "EX"), ("fo", "FO"), ("format", "FO"),
  ("hebrewletter", "HL"), ("hl", "HL"), ("ka", "KA"), ("katakana", "KA"), ("le", "LE"),
  ("lf", "LF"), ("mb", "MB"), ("midletter", "ML"), ("midnum", "MN"), ("midnumlet", "MB"),
  ("ml", "ML"), ("mn", "MN"), ("newline", "NL"), ("nl", "NL"), ("nu", "NU"), ("numeric", "NU"),
  ("regionalindicator", "RI"), ("ri", "RI"), ("singlequote", "SQ"), ("sq", "SQ"),
  ("wsegspace", "WS"), ("zwj", "ZJ")]

/-- The runs of one value. Most characters have the value `XX`, which has no name. -/
def table : List String := [
  "aXX1LF2NL1CR12XX1WS1XX1DQ4XX1SQ4XX1MN1XX1MB1XXaNU1ML1MN5XX1aLE4XX1EX1XX1aLEaXX1NL24XX1LE2XX1FO",
  "7XX1LE1XX1ML2XX1LE5XX17LE1XX1fLE1XX1e0LE6XX22LE70XT5LE1XX2LE2XX4LE1MN1LE6XX1LE1ML3LE1XX1LE1XX",
  "14LE1XX53LE1XX8bLE1XX7XTa6LE1XX26LE2XX4LE1XX1LE1ML29LE1MN1LE6XX2dXT1XX1XT1XX2XT1XX2XT1XX1XT8XX",
  "1bHL4XX4HL1LE1MLbXX6NU6XX2MN2XXbXT1XX1FO3XX2bLE15XTaNU1XX1NU1MN1XX2LE1XT63LE1XX1LE7XT1NU1XX6XT",
  "2LE2XT1XX4XT2LEaNU3LE2XX1LEfXX2LE1XT1eLE1bXT2XX59LEbXT1LEeXXaNU21LE9XT2LE2XX1MN1XX1LE2XX1XT2XX",
  "16LE4XT1LE9XT1LE3XT1LE5XT12XX19LE3XT4XXbLE5XX18LE1XX6LE1XX2NU5XX9XT2aLE18XT1NU21XT36LE3XT1LE",
  "12XT1LE7XTaLE2XT2XXaNU1XX10LE3XT1XX8LE2XX2LE2XX16LE1XX7LE1XX1LE3XX4LE2XX1XT1LE7XT2XX2XT2XX3XT",
  "1LE8XX1XT4XX2LE1XX3LE2XT2XXaNU2LEaXX1LE1XX1XT2XX3XT1XX6LE4XX2LE2XX16LE1XX7LE1XX2LE1XX2LE1XX2LE",
  "2XX1XT1XX5XT4XX2XT2XX3XT3XX1XT7XX4LE1XX1LE7XXaNU2XT3LE1XTbXX3XT1XX9LE1XX3LE1XX16LE1XX7LE1XX2LE",
  "1XX5LE2XX1XT1LE8XT1XX3XT1XX3XT2XX1LEfXX2LE2XT2XXaNU9XX1LE6XT1XX3XT1XX8LE2XX2LE2XX16LE1XX7LE1XX",
  "2LE1XX5LE2XX1XT1LE7XT2XX2XT2XX3XT7XX3XT4XX2LE1XX3LE2XT2XXaNU1XX1LE10XX1XT1LE1XX6LE3XX3LE1XX4LE",
  "3XX2LE1XX1LE1XX2LE3XX2LE3XX3LE3XXcLE4XX5XT3XX3XT1XX4XT2XX1LE6XX1XTeXXaNU10XX5XT8LE1XX3LE1XX",
  "17LE1XX10LE2XX1XT1LE7XT1XX3XT1XX4XT7XX2XT1XX3LE2XX1LE2XX2LE2XT2XXaNU10XX1LE3XT1XX8LE1XX3LE1XX",
  "17LE1XXaLE1XX5LE2XX1XT1LE7XT1XX3XT1XX4XT7XX2XT6XX2LE1XX2LE2XT2XXaNU1XX2LE1XTcXX4XT9LE1XX3LE1XX",
  "29LE2XT1LE7XT1XX3XT1XX4XT1LE5XX3LE1XT7XX3LE2XT2XXaNUaXX6LE1XX3XT1XX12LE3XX18LE1XX9LE1XX1LE2XX",
  "7LE3XX1XT4XX6XT1XX1XT1XX8XT6XXaNU2XX2XT3dXX1XT2XX7XTcXX8XT1XXaNU57XX1XT2XX9XTbXX7XT1XXaNU26XX",
  "1LE17XX2XT6XXaNUbXX1XT1XX1XT1XX1XT4XX2XT8LE1XX24LE4XX14XT1XX2XT5LEbXT1XX24XT9XX1XT64XX14XT1XX",
  "aNUcXX4XT4XX3XT1XX3XT2XX7XT3XX4XTdXXcXT1XX1XTaNU4XT2XX26LE1XX1LE5XX1LE2XX2bLE1XX14dLE1XX4LE2XX",
  "7LE1XX1LE1XX4LE2XX29LE1XX4LE2XX21LE1XX4LE2XX7LE1XX1LE1XX4LE2XXfLE1XX39LE1XX4LE2XX43LE2XX3XT",
  "20XX10LE10XX56LE2XX6LE3XX26cLE2XX11LE1WS1aLE5XX4bLE3XXbLE7XX12LE4XT9XX13LE3XTbXX12LE2XTcXXdLE",
  "1XX3LE1XX2XT40XX20XT9XX1XT2XXaNU21XX3XT1FO1XTaNU6XX59LE7XX5LE2XT22LE1XT1LE5XX46LEaXX1fLE1XXcXT",
  "4XXcXTaXXaNU80XXbNU25XX17LE5XT39XXaXT1XX1dXT2XX1XTaNU6XXaNU16XX1fXT31XX5XT2fLE11XT8LE3XXaNU",
  "11XX9XTcXX3XT1eLEdXT2LEaNU2cLEeXTcXX24LE14XT8XXaNU3XX3LEaNU24LE2XXbLE5XX2bLE2XX3LE10XX3XT1XX",
  "15XT4LE1XT6LE1XT2LE3XT1LE5XXc0LE40XT116LE2XX6LE2XX26LE2XX6LE2XX8LE1XX1LE1XX1LE1XX1LE1XX1fLE2XX",
  "35LE1XX7LE1XX1LE3XX3LE1XX7LE3XX4LE2XX6LE4XXdLE5XX3LE1XX7LE3XX7WS1XX3WS1XX1XT1ZJ2FO8XX2MBaXX1MB",
  "2XX1ML2NL5FO1EXfXX2EX3XX1MNfXX1EXaXX1WS5FO1XXaFO1XX1LEdXX1LE10XXdLE33XX21XT11XX1LE4XX1LE2XXaLE",
  "1XX1LE3XX5LE6XX1LE1XX1LE1XX1LE1XX4LE1XXbLE2XX4LE5XX5LE4XX1LE11XX29LE32dXX34LE716XXe5LE6XX4LE",
  "3XT2LEcXX26LE1XX1LE5XX1LE2XX38LE7XX1LEfXX1XT17LE9XX7LE1XX7LE1XX7LE1XX7LE1XX7LE1XX7LE1XX7LE1XX",
  "7LE1XX20XT2fXX1LE1d0XX1WS4XX1LE24XX6XT1XX5KA5XX2LE5cXX2XT2KA3XX5bKA1XX4KA5XX2bLE1XX5eLE11XX",
  "20LE30XX10KAd0XX2fKA1XX58KA6ca8XX48dLE43XX2eLE2XX10dLE3XX10LEaNU2LE14XX2fLE4XT1XXaXT1XX1fLE2XT",
  "50LE2XT16XXc6LE2XX2LE1XX1LE1XX8LE15XX10LE1XT3LE1XT4LE1XT17LE5XT4XX1XT13XX34LEcXX2XT32LE12XTaXX",
  "aNU6XX12XT6LE3XX1LE1XX2LE1XTaNU1cLE8XT2XX17LEdXTcXX1dLE3XX4XT2fLEeXTeXX1LEaNUbXX1XTaXXaNU6XX",
  "29LEeXT9XX3LE1XT8LE2XT2XXaNU21XX3XT32XX1XT1XX3XT2XX2XT5XX2XT1XX1XT1eXXbLE5XT2XX3LE2XTaXX6LE2XX",
  "6LE2XX6LE9XX7LE1XX7LE1XX3aLE6XX73LE8XT1XX2XT2XXaNU6XX2ba4LEcXX17LE4XX31LE2304XX7LEcXX5LE5XX1HL",
  "1XTaHL1XXdHL1XX5HL1XX1HL1XX2HL1XX2HL1XXaHL62LE21XX16bLE12XX40LE2XX36LE28XXcLE4XX10XT3XX1MLcXX",
  "10XT3XX2EX18XX3EX1MN1XX1MB1XX1MN1ML1aXX5LE1XX87LE2XX1FO7XX1MB4XX1MN1XX1MB1XXaNU1ML1MN5XX1aLE",
  "4XX1EX1XX1aLEbXX38KA2XT1fLE3XX6LE2XX6LE2XX6LE2XX3LE1cXX3FO4XXcLE1XX1aLE1XX13LE1XX2LE1XXfLE2XX",
  "eLE22XX7bLE45XX35LE88XX1XT82XX1dLE3XX31LEfXX1XT1fXX20LEdXX1eLE5XX26LE5XT5XX1eLE2XX24LE4XX8LE",
  "1XX5LE2aXX9eLE2XXaNU6XX24LE4XX24LE4XX28LE8XX34LEcXXbLE1XXfLE1XX7LE1XX2LE1XXbLE1XXfLE1XX7LE1XX",
  "2LE3XX34LEcXX137LE9XX16LEaXX8LE18XX6LE1XX2aLE1XX9LE45XX6LE2XX1LE1XX2cLE1XX2LE3XX1LE2XX17LEaXX",
  "17LE9XX1fLE41XX13LE1XX2LEaXX16LEaXX1aLE46XX38LE6XX2LE40XX1LE3XT1XX2XT5XX4XT4LE1XX3LE1XX1dLE2XX",
  "3XT4XX1XT20XX1dLE3XX1dLE23XX8LE1XX1cLE2XT19XX36LEaXX16LEaXX13LEdXX12LE6eXX49LE37XX33LEdXX33LE",
  "dXX24LE4XT8XXaNU6XXaNU1cLE3XX5XT1XX17LEfaXX2aLE1XX2XT3XX2LE10XX3LE37XX4XT1dLEaXX1LE8XX16LEbXT",
  "1fXX12LE4XT2aXX15LE1bXX17LE9XX3XT35LEfXT1fXXaNU1XT2LE2XT1LE9XX4XT2dLEbXT2XX1NU4XX1XTaXX1NU2XX",
  "19LE7XXaNU6XX3XT24LEeXT1XXaNU4XX1LE2XT1LE8XX23LE1XT2XX1LE9XX3XT30LEeXT4LE4XX4XT1XX2XTaNU1LE1XX",
  "1LE23XX12LE1XX19LEcXT6XX1XT2LE1XT3eXX7LE1XX1LE1XX4LE1XXfLE1XXaLE7XX2fLEcXT5XXaNU6XX4XT1XX8LE",
  "2XX2LE2XX16LE1XX7LE1XX2LE1XX5LE1XX2XT1LE7XT2XX2XT2XX3XT2XX1LE6XX1XT5XX5LE2XT2XX7XT3XX5XTbXXaLE",
  "1XX1LE2XX1LE1XX26LE1XX1LE9XT1XX1XT2XX1XT1XX4XT1XX5XT1LE1XT1LEdXX2XT1dXX35LE12XT4LE5XXaNU4XX1XT",
  "3LE1eXX30LE14XT2LE1XX1LE8XXaNUa6XX2fLE7XT2XX9XT17XX4LE2XT22XX30LE11XT3XX1LEbXXaNU26XX2bLEdXT",
  "1LE7XXaNU6XX14NU39XXfXT4XXaNUc6XX2cLEfXT65XX40LEaNU15XX8LE2XX1LE2XX8LE1XX2LE1XX18LE6XT1XX2XT",
  "2XX4XT1LE1XT1LE2XTcXXaNU46XX8LE2XX27LE7XT2XX7XT1LE1XX1LE1XT1bXX1LEaXT28LE7XT1LE4XT8XX1XT8XX1LE",
  "bXT2eLE10XT3XX1LE12XX49LEc7XX21LEfXXaNU6XX9LE1XX25LE8XT1XX8XT1LEfXXaNU18XX1eLE2XX16XT1XXeXT",
  "49XX7LE1XX2LE1XX26LE6XT3XX1XT1XX2XT1XX7XT1LE1XT8XXaNU6XX6LE1XX2LE1XX20LE5XT1XX2XT1XX5XT1LE7XX",
  "aNU136XX13LE4XT9XX2XT1LE1XTdLE1XX22LE7XT3XX5XTdXXaNU1XT55XX1LE4fXX39aLE66XX6fLE11XXc4LEa4cXX",
  "61LEfXX430LE10FO1XT6LEfXTaXXf9bLE5XX247LE1ab9XX1eLE12XTaNU6c6XX239LE7XX1fLE1XXaNU6XX4fLE1XXaNU",
  "6XX1eLE2XX5XTbXX30LE7XT9XX4LEcXXaNU9XX15LE5XX13LE1b0XX2dLE3XXaNUc6XX40LE80XX4bLE4XX1XT1LE37XT",
  "7XX4XTdLE40XX2LE1XX1LE1XTbXX2XT3ffeXX4KA1XX7KA1XX2KA1XX1KA11fXX3KA32XX1KAeXX4KAa98XX6bLE5XXdLE",
  "3XX9LE7XXaLE3XX2XT1XX4FO104cXXaNU206XX2eXT2XX17XT21eXX5XT3XX6XT8FO8XT2XX7XT1eXX4XT94XX3XT1bbXX",
  "55LE1XX47LE1XX2LE2XX1LE2XX2LE2XX4LE1XXcLE1XX1LE1XX7LE1XX41LE1XX4LE2XX8LE1XX7LE1XX1cLE1XX4LE1XX",
  "5LE1XX1LE3XX7LE1XX154LE2XX19LE1XX19LE1XX1fLE1XX19LE1XX1fLE1XX19LE1XX1fLE1XX19LE1XX1fLE1XX19LE",
  "1XX8LE2XX32NU200XX37XT4XX32XT8XX1XTeXX1XT16XX5XT1XXfXT450XX1fLE6XX6LEd5XX7XT1XX11XT2XX7XT1XX",
  "2XT1XX5XT5XX3eLE21XX1XT70XX2dLE3XX7XT7LE2XXaNU4XX1LE141XX1eLE1XT11XX2cLE4XTaNU1d6XX1cLE4XTaNU",
  "d6XX1eLE2XT1LEaNU1e5XX7LE1XX4LE1XX2LE1XXfLE1XXc5LEbXX7XT29XX44LE7XT1LE4XXaNU4a6XX4LE1XX1bLE1XX",
  "2LE1XX1LE2XX1LE1XXaLE1XX4LE1XX1LE1XX1LE6XX1LE4XX1LE1XX1LE1XX1LE1XX3LE1XX2LE1XX1LE2XX1LE1XX1LE",
  "1XX1LE1XX1LE1XX1LE1XX2LE1XX1LE2XX4LE1XX7LE1XX4LE1XX4LE1XX1LE1XXaLE1XX11LE5XX3LE1XX5LE1XX11LE",
  "274XX1aLE6XX1aLE6XX1aLE5cXX1aRI1fbXX5XT7f0XXaNUc0407XX1FO1eXX60XT80XXf0XT2fe10XX"]

/-- The characters with a value, by its name. -/
def ofName? (name : String) : Option CodeSet :=
  Run.named? names (Run.ofTable 2 table) name

end EndpointMonitor.WordBreak
