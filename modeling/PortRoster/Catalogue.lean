import PortRoster.Locale
import PortRoster.Text.Cut

/-! # The catalogue of messages

The texts shown to the user, each under a key and in every language. A text may hold a place for a
value, written as a name in braces after a percent sign. -/

namespace PortRoster.Catalogue

/-- One message. -/
structure Row where
  key : String
  english : String
  chinese : String
  deriving Repr

/-- The wording of a message in a language. -/
def Row.text (r : Row) : Locale → String
  | .en => r.english
  | .zhCN => r.chinese

/-- All messages. -/
def rows : List Row :=
  [⟨"app.about", "portreg - Discover communication ports and pick one", "portreg - 发现通信端口并选择其一"⟩,
   ⟨"help.usage_heading", "Usage", "用法"⟩,
   ⟨"help.commands_heading", "Commands", "命令"⟩,
   ⟨"help.options_heading", "Options", "选项"⟩,
   ⟨"help.arguments_heading", "Arguments", "参数"⟩,
   ⟨"arg.help.help", "Print help", "打印帮助信息"⟩,
   ⟨"arg.version.help", "Print version", "打印版本信息"⟩,
   ⟨"arg.config_path.help", "Path to a configuration file", "配置文件路径"⟩,
   ⟨"arg.lang.help", "Language/locale for messages (e.g., en, zh-CN)", "消息语言 (例如 en, zh-CN)"⟩,
   ⟨"arg.verbose.help",
     "Verbose output level (-v, -vv, -vvv for increasing detail)",
     "详细输出级别 (-v, -vv, -vvv 逐级增加)"⟩,
   ⟨"arg.quiet.help", "Quiet mode (suppress non-essential output)", "安静模式 (仅输出必要信息)"⟩,
   ⟨"arg.non_interactive.help",
     "Non-interactive mode (fail instead of prompting)",
     "非交互模式 (不弹出提示, 直接失败)"⟩,
   ⟨"arg.kind.help", "Saved port kind (overrides the configuration file)", "已保存的端口类型 (覆盖配置文件)"⟩,
   ⟨"arg.path.help", "Saved device path or USB-serial id", "已保存的设备路径或 USB 串口 ID"⟩,
   ⟨"arg.mac.help", "Saved Bluetooth MAC address", "已保存的蓝牙 MAC 地址"⟩,
   ⟨"arg.uart.help", "Saved IOIO UART line", "已保存的 IOIO UART 线路"⟩,
   ⟨"arg.json.help", "Output as JSON to stdout", "以 JSON 格式输出到标准输出"⟩,
   ⟨"arg.id.help",
     "Identifier (decimal, or hexadecimal with 0x prefix)",
     "标识符 (十进制, 或带 0x 前缀的十六进制)"⟩,
   ⟨"arg.shell.help", "Shell type for completions", "补全脚本的 Shell 类型"⟩,
   ⟨"cmd.list.about", "List selectable ports with the saved one marked", "列出可选端口并标记已保存的端口"⟩,
   ⟨"cmd.select.about", "Pick a port and print the configuration to save", "选择端口并打印需保存的配置"⟩,
   ⟨"cmd.resolve.about", "Resolve a port identifier to its kind", "将端口标识符解析为端口类型"⟩,
   ⟨"cmd.completions.about", "Generate shell completion scripts", "生成 Shell 补全脚本"⟩,
   ⟨"list.header", "Available ports", "可用端口"⟩,
   ⟨"list.nothing_selected", "The saved port is not in the list", "已保存的端口不在列表中"⟩,
   ⟨"select.prompt", "Select a port", "选择端口"⟩,
   ⟨"select.cancelled", "Port selection cancelled", "已取消端口选择"⟩,
   ⟨"select.requires_tty",
     "Interactive selection requires a terminal; use --non-interactive with --kind/--path/--mac/--uart",
     "交互式选择需要终端; 请使用 --non-interactive 并配合 --kind/--path/--mac/--uart"⟩,
   ⟨"select.prompt_failed", "Failed to show the port selection prompt", "无法显示端口选择提示"⟩,
   ⟨"select.nothing_selected",
     "No port is selected; pass --kind and its value or configure [device]",
     "未选择任何端口; 请传入 --kind 及其取值, 或配置 [device]"⟩,
   ⟨"select.done", "Selected %\x7blabel\x7d", "已选择 %\x7blabel\x7d"⟩,
   ⟨"resolve.raw_offset", "Static table offset %\x7boffset\x7d", "静态表偏移 %\x7boffset\x7d"⟩,
   ⟨"resolve.encoded", "Encoded identifier %\x7bid\x7d", "编码标识符 %\x7bid\x7d"⟩,
   ⟨"resolve.entry", "Entry: %\x7blabel\x7d", "条目: %\x7blabel\x7d"⟩,
   ⟨"resolve.no_entry", "No entry with this identifier in the current list", "当前列表中没有该标识符对应的条目"⟩,
   ⟨"kind.disabled", "Disabled", "禁用"⟩,
   ⟨"kind.internal", "Built-in GPS & sensors", "内置 GPS 与传感器"⟩,
   ⟨"kind.rfcomm_server", "Bluetooth server", "蓝牙服务端"⟩,
   ⟨"kind.droid_soar_v2", "DroidSoar V2", "DroidSoar V2"⟩,
   ⟨"kind.glider_link", "GliderLink traffic receiver", "GliderLink 交通接收器"⟩,
   ⟨"kind.nunchuck", "IOIO switches and Nunchuk", "IOIO 开关与 Nunchuk"⟩,
   ⟨"kind.i2c_pressure_sensor", "IOIO I²C pressure sensor", "IOIO I²C 气压传感器"⟩,
   ⟨"kind.ioio_voltage", "IOIO voltage sensor", "IOIO 电压传感器"⟩,
   ⟨"kind.tcp_client", "TCP client", "TCP 客户端"⟩,
   ⟨"kind.tcp_listener", "TCP port", "TCP 端口"⟩,
   ⟨"kind.udp_listener", "UDP port", "UDP 端口"⟩]

/-- The message under a key. -/
def text? (l : Locale) (key : String) : Option String :=
  (rows.find? (·.key == key)).map (·.text l)

/-- The message under a key, or the key itself where there is none. -/
def text (l : Locale) (key : String) : String := (text? l key).getD key

/-- Puts a value into the first place that a text holds for it. -/
def fillAt (place value : List Char) : List Char → List Char
  | [] => []
  | c :: cs =>
    match Text.afterStart? place (c :: cs) with
    | some rest => value ++ rest
    | none => c :: fillAt place value cs

/-- The message under a key, with a value in the place of a name. -/
def filled (l : Locale) (key name value : String) : String :=
  String.ofList (fillAt ('%' :: '\x7b' :: name.toList ++ ['\x7d']) value.toList (text l key).toList)

end PortRoster.Catalogue
