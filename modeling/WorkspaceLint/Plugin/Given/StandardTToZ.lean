import WorkspaceLint.Plugin.Given.Basic

/-!
# Standard modules from T to Z

The modules of the standard library whose names begin with a letter from T to Z, with the names
that they provide. Long series of numeric constants are left out.
-/

namespace WorkspaceLint.GivenModule

/-- The standard modules from T to Z. -/
def standardTToZ : List GivenModule := [
  ⟨"_thread", false, "LockType:_thread:lock RLock error:builtins:RuntimeError",
    "allocate allocate_lock exit exit_thread get_ident get_native_id interrupt_main stack_size "
      ++ "start_new start_new_thread", ""⟩,
  ⟨"tabnanny", false, "NannyNag Whitespace", "check errprint format_witnesses main process_tokens",
    "filename_only verbose"⟩,
  ⟨"tarfile", false,
    "AbsoluteLinkError AbsolutePathError CompressionError EOFHeaderError EmptyHeaderError "
      ++ "ExFileObject ExtractError FilterError HeaderError InvalidHeaderError "
      ++ "LinkOutsideDestinationError OutsideDestinationError ReadError SpecialFileError "
      ++ "StreamError SubsequentHeaderError TarError TarFile TarInfo TruncatedHeaderError",
    "bltn_open calc_chksums copyfileobj data_filter fully_trusted_filter is_tarfile itn main "
      ++ "nti nts stn tar_filter", "open symlink_exception version"⟩,
  ⟨"telnetlib", false, "Telnet", "test", "theNULL"⟩,
  ⟨"tempfile", false, "SpooledTemporaryFile TemporaryDirectory",
    "NamedTemporaryFile TemporaryFile gettempdir gettempdirb gettempprefix gettempprefixb "
      ++ "mkdtemp mkstemp mktemp", "TMP_MAX tempdir template"⟩,
  ⟨"termios", false, "error",
    "tcdrain tcflow tcflush tcgetattr tcgetwinsize tcsendbreak tcsetattr tcsetwinsize", ""⟩,
  ⟨"textwrap", false, "TextWrapper", "dedent fill indent shorten wrap", ""⟩,
  ⟨"this", false, "", "", ""⟩,
  ⟨"threading", false,
    "Barrier BoundedSemaphore BrokenBarrierError Condition Event "
      ++ "ExceptHookArgs:_thread:_ExceptHookArgs Semaphore Thread "
      ++ "ThreadError:builtins:RuntimeError Timer WeakSet:_weakrefset local:_thread:_local",
    "Lock RLock activeCount active_count currentThread current_thread enumerate excepthook "
      ++ "get_ident get_native_id getprofile gettrace main_thread setprofile settrace stack_size",
    "TIMEOUT_MAX"⟩,
  ⟨"time", false, "struct_time",
    "asctime clock_getres clock_gettime clock_gettime_ns clock_settime clock_settime_ns ctime "
      ++ "get_clock_info gmtime localtime mktime monotonic monotonic_ns perf_counter "
      ++ "perf_counter_ns process_time process_time_ns pthread_getcpuclockid sleep strftime "
      ++ "strptime thread_time thread_time_ns time time_ns tzset",
    "CLOCK_BOOTTIME CLOCK_MONOTONIC CLOCK_MONOTONIC_RAW CLOCK_PROCESS_CPUTIME_ID CLOCK_REALTIME "
      ++ "CLOCK_THREAD_CPUTIME_ID altzone daylight timezone tzname"⟩,
  ⟨"timeit", false, "Timer", "default_timer main reindent repeat timeit",
    "default_number default_repeat dummy_src_name template"⟩,
  ⟨"token", false, "", "ISEOF ISNONTERMINAL ISTERMINAL", "tok_name"⟩,
  ⟨"tokenize", false, "StopTokenizing TextIOWrapper:_io TokenError TokenInfo Untokenizer",
    "ISEOF ISNONTERMINAL ISTERMINAL any detect_encoding generate_tokens group lookup main maybe "
      ++ "open tokenize untokenize",
    "Binnumber Comment ContStr Decnumber Double Double3 Expfloat Exponent Floatnumber Funny "
      ++ "Hexnumber Ignore Imagnumber Intnumber Name Number Octnumber PlainToken Pointfloat "
      ++ "PseudoExtras PseudoToken Single Single3 Special String StringPrefix Token Triple "
      ++ "Whitespace blank_re cookie_re endpats single_quoted tabsize tok_name triple_quoted"⟩,
  ⟨"tomllib", true, "TOMLDecodeError", "load loads", ""⟩,
  ⟨"trace", false, "CoverageResults Trace", "main", "PRAGMA_NOCOVER"⟩,
  ⟨"traceback", false, "FrameSummary StackSummary TracebackException suppress:contextlib",
    "clear_frames extract_stack extract_tb format_exc format_exception format_exception_only "
      ++ "format_list format_stack format_tb print_exc print_exception print_last print_list "
      ++ "print_stack print_tb walk_stack walk_tb", ""⟩,
  ⟨"tracemalloc", false,
    "BaseFilter DomainFilter Filter Frame Iterable:collections.abc Sequence:collections.abc "
      ++ "Snapshot Statistic StatisticDiff Trace Traceback",
    "clear_traces get_object_traceback get_traceback_limit get_traced_memory "
      ++ "get_tracemalloc_memory is_tracing reset_peak start stop take_snapshot total_ordering",
    ""⟩,
  ⟨"tty", false, "error:termios",
    "setcbreak setraw tcdrain tcflow tcflush tcgetattr tcgetwinsize tcsendbreak tcsetattr "
      ++ "tcsetwinsize", ""⟩,
  ⟨"turtle", false, "", "", ""⟩,
  ⟨"types", false,
    "AsyncGeneratorType:builtins:async_generator "
      ++ "BuiltinFunctionType:builtins:builtin_function_or_method "
      ++ "BuiltinMethodType:builtins:builtin_function_or_method CellType:builtins:cell "
      ++ "ClassMethodDescriptorType:builtins:classmethod_descriptor CodeType:builtins:code "
      ++ "CoroutineType:builtins:coroutine DynamicClassAttribute EllipsisType:builtins:ellipsis "
      ++ "FrameType:builtins:frame FunctionType:builtins:function "
      ++ "GeneratorType:builtins:generator GenericAlias "
      ++ "GetSetDescriptorType:builtins:getset_descriptor LambdaType:builtins:function "
      ++ "MappingProxyType:builtins:mappingproxy "
      ++ "MemberDescriptorType:builtins:member_descriptor "
      ++ "MethodDescriptorType:builtins:method_descriptor MethodType:builtins:method "
      ++ "MethodWrapperType ModuleType:builtins:module NoneType:builtins "
      ++ "NotImplementedType:builtins SimpleNamespace TracebackType:builtins:traceback "
      ++ "UnionType WrapperDescriptorType:builtins:wrapper_descriptor",
    "coroutine new_class prepare_class resolve_bases", ""⟩,
  ⟨"typing", false,
    "ABCMeta:abc Annotated Any BinaryIO ForwardRef Generic GenericAlias:types IO "
      ++ "MethodDescriptorType:builtins:method_descriptor MethodWrapperType NamedTupleMeta "
      ++ "NewType ParamSpec ParamSpecArgs ParamSpecKwargs Protocol SupportsAbs SupportsBytes "
      ++ "SupportsComplex SupportsFloat SupportsIndex SupportsInt SupportsRound "
      ++ "Text:builtins:str TextIO TypeVar TypeVarTuple "
      ++ "WrapperDescriptorType:builtins:wrapper_descriptor defaultdict:collections io re",
    "NamedTuple TypedDict abstractmethod assert_never assert_type cast clear_overloads "
      ++ "dataclass_transform final get_args get_origin get_overloads get_type_hints "
      ++ "is_typeddict no_type_check no_type_check_decorator overload reveal_type "
      ++ "runtime_checkable",
    "AbstractSet AnyStr AsyncContextManager AsyncGenerator AsyncIterable AsyncIterator "
      ++ "Awaitable ByteString CT_co Callable ChainMap ClassVar Collection Concatenate "
      ++ "Container ContextManager Coroutine Counter DefaultDict Deque Dict EXCLUDED_ATTRIBUTES "
      ++ "Final FrozenSet Generator Hashable ItemsView Iterable Iterator KT KeysView List "
      ++ "Literal LiteralString Mapping MappingView Match MutableMapping MutableSequence "
      ++ "MutableSet Never NoReturn NotRequired Optional OrderedDict Pattern Required "
      ++ "Reversible Self Sequence Set Sized T TYPE_CHECKING T_co T_contra Tuple Type TypeAlias "
      ++ "TypeGuard Union Unpack VT VT_co V_co ValuesView"⟩,
  ⟨"unicodedata", false, "UCD",
    "bidirectional category combining decimal decomposition digit east_asian_width "
      ++ "is_normalized lookup name normalize numeric", "ucd_3_2_0 unidata_version"⟩,
  ⟨"unittest", true,
    "BaseTestSuite:unittest.suite FunctionTestCase:unittest.case SkipTest:unittest.case "
      ++ "TestCase:unittest.case TestLoader:unittest.loader TestProgram:unittest.main "
      ++ "TestResult:unittest.result TestSuite:unittest.suite TextTestResult:unittest.runner "
      ++ "TextTestRunner:unittest.runner main:unittest.main:TestProgram",
    "addModuleCleanup doModuleCleanups enterModuleContext expectedFailure findTestCases "
      ++ "getTestCaseNames installHandler load_tests makeSuite registerResult removeHandler "
      ++ "removeResult skip skipIf skipUnless", "defaultTestLoader"⟩,
  ⟨"unittest.async_case", false, "IsolatedAsyncioTestCase TestCase:unittest.case", "", ""⟩,
  ⟨"unittest.case", false, "FunctionTestCase SkipTest TestCase",
    "addModuleCleanup doModuleCleanups enterModuleContext expectedFailure safe_repr skip skipIf "
      ++ "skipUnless strclass", "DIFF_OMITTED"⟩,
  ⟨"unittest.loader", false, "TestLoader",
    "findTestCases fnmatch fnmatchcase getTestCaseNames makeSuite",
    "VALID_MODULE_NAME defaultTestLoader"⟩,
  ⟨"unittest.main", false, "TestProgram main:unittest.main:TestProgram", "installHandler",
    "MAIN_EXAMPLES MODULE_EXAMPLES"⟩,
  ⟨"unittest.mock", false,
    "AsyncMagicMixin AsyncMock AsyncMockMixin Base CallableMixin CodeType:builtins:code "
      ++ "InvalidSpecError MagicMixin MagicMock MagicProxy MethodType:builtins:method Mock "
      ++ "ModuleType:builtins:module NonCallableMagicMock NonCallableMock PropertyMock "
      ++ "partial:functools",
    "RLock create_autospec iscoroutinefunction mock_open patch safe_repr seal wraps",
    "ANY DEFAULT FILTER_DIR FunctionTypes call file_spec inplace magic_methods numerics "
      ++ "open_spec right sentinel"⟩,
  ⟨"unittest.result", false, "TestResult", "failfast wraps", "STDERR_LINE STDOUT_LINE"⟩,
  ⟨"unittest.runner", false, "TextTestResult TextTestRunner", "registerResult", ""⟩,
  ⟨"unittest.signals", false, "", "installHandler registerResult removeHandler removeResult wraps",
    ""⟩,
  ⟨"unittest.suite", false, "BaseTestSuite TestSuite", "", ""⟩,
  ⟨"unittest.util", false, "Counter:collections",
    "commonprefix namedtuple safe_repr sorted_list_difference strclass three_way_cmp "
      ++ "unorderable_list_difference", ""⟩,
  ⟨"urllib", true, "", "", ""⟩,
  ⟨"urllib.error", false, "ContentTooShortError HTTPError URLError", "", ""⟩,
  ⟨"urllib.parse", false,
    "DefragResult DefragResultBytes ParseResult ParseResultBytes "
      ++ "ResultBase:urllib.parse:_NetlocResultMixinStr SplitResult SplitResultBytes",
    "clear_cache namedtuple parse_qs parse_qsl quote quote_from_bytes quote_plus splitattr "
      ++ "splithost splitnport splitpasswd splitport splitquery splittag splittype splituser "
      ++ "splitvalue to_bytes unquote unquote_plus unquote_to_bytes unwrap urldefrag urlencode "
      ++ "urljoin urlparse urlunparse urlunsplit",
    "non_hierarchical scheme_chars urlsplit uses_fragment uses_netloc uses_params uses_query "
      ++ "uses_relative"⟩,
  ⟨"urllib.request", false,
    "AbstractBasicAuthHandler AbstractDigestAuthHandler AbstractHTTPHandler BaseHandler "
      ++ "CacheFTPHandler ContentTooShortError:urllib.error DataHandler FTPHandler "
      ++ "FancyURLopener FileHandler HTTPBasicAuthHandler HTTPCookieProcessor "
      ++ "HTTPDefaultErrorHandler HTTPDigestAuthHandler HTTPError:urllib.error "
      ++ "HTTPErrorProcessor HTTPHandler HTTPPasswordMgr HTTPPasswordMgrWithDefaultRealm "
      ++ "HTTPPasswordMgrWithPriorAuth HTTPRedirectHandler HTTPSHandler OpenerDirector "
      ++ "ProxyBasicAuthHandler ProxyDigestAuthHandler ProxyHandler Request "
      ++ "URLError:urllib.error URLopener UnknownHandler addclosehook:urllib.response "
      ++ "addinfourl:urllib.response ftpwrapper",
    "build_opener ftperrors getproxies getproxies_environment install_opener localhost "
      ++ "noheaders parse_http_list parse_keqv_list pathname2url proxy_bypass "
      ++ "proxy_bypass_environment quote request_host thishost unquote unquote_to_bytes unwrap "
      ++ "url2pathname urlcleanup urljoin urlopen urlparse urlretrieve urlunparse",
    "MAXFTPCACHE ftpcache urlsplit"⟩,
  ⟨"urllib.response", false, "addbase addclosehook addinfo addinfourl", "", ""⟩,
  ⟨"urllib.robotparser", false, "Entry RequestRate RobotFileParser RuleLine", "", ""⟩,
  ⟨"uu", false, "Error", "decode encode test", ""⟩,
  ⟨"uuid", false, "Enum:enum SafeUUID UUID bytes_:builtins:bytes int_:builtins:int",
    "getnode uuid1 uuid3 uuid4 uuid5",
    "NAMESPACE_DNS NAMESPACE_OID NAMESPACE_URL NAMESPACE_X500 RESERVED_FUTURE "
      ++ "RESERVED_MICROSOFT RESERVED_NCS RFC_4122"⟩,
  ⟨"venv", true, "", "", ""⟩,
  ⟨"warnings", false, "WarningMessage catch_warnings",
    "filterwarnings formatwarning resetwarnings showwarning simplefilter warn warn_explicit",
    "defaultaction filters onceregistry"⟩,
  ⟨"wave", false, "Error Wave_read Wave_write", "namedtuple open", "WAVE_FORMAT_PCM"⟩,
  ⟨"weakref", false,
    "CallableProxyType KeyedRef ProxyType ReferenceType WeakKeyDictionary WeakMethod "
      ++ "WeakSet:_weakrefset WeakValueDictionary finalize ref:weakref:ReferenceType",
    "getweakrefcount getweakrefs proxy", "ProxyTypes"⟩,
  ⟨"webbrowser", false,
    "BackgroundBrowser BaseBrowser Chrome Chromium:webbrowser:Chrome Elinks Error Galeon "
      ++ "GenericBrowser Grail Konqueror Mozilla Netscape Opera UnixBrowser",
    "get main open open_new open_new_tab register register_X_browsers register_standard_browsers",
    ""⟩,
  ⟨"wsgiref", true, "", "", ""⟩,
  ⟨"wsgiref.handlers", false,
    "BaseCGIHandler BaseHandler CGIHandler FileWrapper:wsgiref.util Headers:wsgiref.headers "
      ++ "IISCGIHandler SimpleHandler", "format_date_time guess_scheme is_hop_by_hop read_environ",
    ""⟩,
  ⟨"wsgiref.headers", false, "Headers", "", "tspecials"⟩,
  ⟨"wsgiref.simple_server", false,
    "BaseHTTPRequestHandler:http.server HTTPServer:http.server ServerHandler "
      ++ "SimpleHandler:wsgiref.handlers WSGIRequestHandler WSGIServer", "demo_app make_server",
    "server_version software_version sys_version"⟩,
  ⟨"wsgiref.types", false,
    "Any:typing Callable:collections.abc ErrorStream FileWrapper InputStream "
      ++ "Iterable:collections.abc Iterator:collections.abc Protocol:typing StartResponse "
      ++ "TracebackType:builtins:traceback", "", "TypeAlias WSGIApplication WSGIEnvironment"⟩,
  ⟨"wsgiref.util", false, "FileWrapper",
    "application_uri guess_scheme is_hop_by_hop request_uri setup_testing_defaults "
      ++ "shift_path_info", ""⟩,
  ⟨"wsgiref.validate", false,
    "ErrorWrapper InputWrapper IteratorWrapper PartialIteratorWrapper WSGIWarning WriteWrapper",
    "assert_ check_content_type check_environ check_errors check_exc_info check_headers "
      ++ "check_input check_iterator check_status check_string_type validator",
    "bad_header_value_re header_re"⟩,
  ⟨"xdrlib", false, "BytesIO:_io ConversionError Error Packer Unpacker",
    "raise_conversion_error wraps", ""⟩,
  ⟨"xml", true, "", "", ""⟩,
  ⟨"xml.dom", true,
    "DOMException DomstringSizeErr HierarchyRequestErr IndexSizeErr InuseAttributeErr "
      ++ "InvalidAccessErr InvalidCharacterErr InvalidModificationErr InvalidStateErr "
      ++ "NamespaceErr NoDataAllowedErr NoModificationAllowedErr Node NotFoundErr "
      ++ "NotSupportedErr SyntaxErr UserDataHandler ValidationErr WrongDocumentErr",
    "getDOMImplementation registerDOMImplementation", ""⟩,
  ⟨"xml.dom.NodeFilter", false, "NodeFilter", "", ""⟩,
  ⟨"xml.dom.domreg", false, "", "getDOMImplementation registerDOMImplementation",
    "registered well_known_implementations"⟩,
  ⟨"xml.dom.expatbuilder", false,
    "ElementInfo ExpatBuilder ExpatBuilderNS FilterCrutch FilterVisibilityController "
      ++ "FragmentBuilder FragmentBuilderNS InternalSubsetExtractor Namespaces Node:xml.dom "
      ++ "NodeFilter:xml.dom.NodeFilter ParseEscape Rejecter Skipper",
    "makeBuilder parse parseFragment parseFragmentString parseString",
    "CDATA_SECTION_NODE DOCUMENT_NODE EMPTY_NAMESPACE EMPTY_PREFIX FILTER_ACCEPT "
      ++ "FILTER_INTERRUPT FILTER_REJECT FILTER_SKIP TEXT_NODE XMLNS_NAMESPACE "
      ++ "theDOMImplementation"⟩,
  ⟨"xml.dom.minicompat", false, "EmptyNodeList NodeList", "defproperty", "StringTypes"⟩,
  ⟨"xml.dom.minidom", false,
    "Attr AttributeList:xml.dom.minidom:NamedNodeMap CDATASection CharacterData Childless "
      ++ "Comment DOMImplementation DOMImplementationLS:xml.dom.xmlbuilder Document "
      ++ "DocumentFragment DocumentLS:xml.dom.xmlbuilder DocumentType Element ElementInfo "
      ++ "EmptyNodeList:xml.dom.minicompat Entity Identified NamedNodeMap Node "
      ++ "NodeList:xml.dom.minicompat Notation ProcessingInstruction "
      ++ "ReadOnlySequentialNamedNodeMap Text TypeInfo",
    "defproperty getDOMImplementation parse parseString",
    "EMPTY_NAMESPACE EMPTY_PREFIX StringTypes XMLNS_NAMESPACE"⟩,
  ⟨"xml.dom.pulldom", false, "DOMEventStream ErrorHandler PullDOM SAX2DOM", "parse parseString",
    "CHARACTERS COMMENT END_DOCUMENT END_ELEMENT IGNORABLE_WHITESPACE PROCESSING_INSTRUCTION "
      ++ "START_DOCUMENT START_ELEMENT default_bufsize"⟩,
  ⟨"xml.dom.xmlbuilder", false,
    "DOMBuilder DOMBuilderFilter DOMEntityResolver DOMImplementationLS DOMInputSource "
      ++ "DocumentLS Options", "", ""⟩,
  ⟨"xml.etree", true, "", "", ""⟩,
  ⟨"xml.etree.ElementInclude", false, "FatalIncludeError LimitedRecursiveIncludeError",
    "default_loader include urljoin",
    "DEFAULT_MAX_INCLUSION_DEPTH XINCLUDE XINCLUDE_FALLBACK XINCLUDE_INCLUDE"⟩,
  ⟨"xml.etree.ElementPath", false, "",
    "find findall findtext get_parent_map iterfind prepare_child prepare_descendant "
      ++ "prepare_parent prepare_predicate prepare_self prepare_star xpath_tokenizer",
    "ops xpath_tokenizer_re"⟩,
  ⟨"xml.etree.ElementTree", false,
    "C14NWriterTarget Element ElementTree ParseError QName TreeBuilder XMLParser XMLPullParser",
    "Comment PI ProcessingInstruction SubElement XML XMLID canonicalize dump fromstring "
      ++ "fromstringlist indent iselement iterparse parse register_namespace tostring "
      ++ "tostringlist", "HTML_EMPTY VERSION"⟩,
  ⟨"xml.etree.cElementTree", false,
    "C14NWriterTarget:xml.etree.ElementTree Element:xml.etree.ElementTree "
      ++ "ElementTree:xml.etree.ElementTree ParseError:xml.etree.ElementTree "
      ++ "QName:xml.etree.ElementTree TreeBuilder:xml.etree.ElementTree "
      ++ "XMLParser:xml.etree.ElementTree XMLPullParser:xml.etree.ElementTree",
    "Comment PI ProcessingInstruction SubElement XML XMLID canonicalize dump fromstring "
      ++ "fromstringlist indent iselement iterparse parse register_namespace tostring "
      ++ "tostringlist", "VERSION"⟩,
  ⟨"xml.parsers", true, "", "", ""⟩,
  ⟨"xml.parsers.expat", false,
    "ExpatError XMLParserType:pyexpat:xmlparser error:xml.parsers.expat:ExpatError",
    "ErrorString ParserCreate",
    "EXPAT_VERSION XML_PARAM_ENTITY_PARSING_ALWAYS XML_PARAM_ENTITY_PARSING_NEVER "
      ++ "XML_PARAM_ENTITY_PARSING_UNLESS_STANDALONE expat_CAPI features native_encoding "
      ++ "version_info"⟩,
  ⟨"xml.sax", true,
    "ContentHandler:xml.sax.handler ErrorHandler:xml.sax.handler InputSource:xml.sax.xmlreader "
      ++ "SAXException:xml.sax._exceptions SAXNotRecognizedException:xml.sax._exceptions "
      ++ "SAXNotSupportedException:xml.sax._exceptions SAXParseException:xml.sax._exceptions "
      ++ "SAXReaderNotAvailable:xml.sax._exceptions", "make_parser parse parseString",
    "default_parser_list"⟩,
  ⟨"xml.sax.expatreader", false,
    "AttributesImpl:xml.sax.xmlreader AttributesNSImpl:xml.sax.xmlreader ExpatLocator "
      ++ "ExpatParser SAXException:xml.sax._exceptions "
      ++ "SAXNotRecognizedException:xml.sax._exceptions "
      ++ "SAXNotSupportedException:xml.sax._exceptions SAXParseException:xml.sax._exceptions "
      ++ "SAXReaderNotAvailable:xml.sax._exceptions", "create_parser",
    "feature_external_ges feature_external_pes feature_namespace_prefixes feature_namespaces "
      ++ "feature_string_interning feature_validation property_interning_dict "
      ++ "property_xml_string version"⟩,
  ⟨"xml.sax.handler", false, "ContentHandler DTDHandler EntityResolver ErrorHandler LexicalHandler",
    "",
    "all_features all_properties feature_external_ges feature_external_pes "
      ++ "feature_namespace_prefixes feature_namespaces feature_string_interning "
      ++ "feature_validation property_declaration_handler property_dom_node property_encoding "
      ++ "property_interning_dict property_lexical_handler property_xml_string version"⟩,
  ⟨"xml.sax.saxutils", false, "XMLFilterBase XMLGenerator",
    "escape prepare_input_source quoteattr unescape", ""⟩,
  ⟨"xml.sax.xmlreader", false,
    "AttributesImpl AttributesNSImpl IncrementalParser InputSource Locator "
      ++ "SAXNotRecognizedException:xml.sax._exceptions "
      ++ "SAXNotSupportedException:xml.sax._exceptions XMLReader", "", ""⟩,
  ⟨"xmlrpc", true, "", "", ""⟩,
  ⟨"xmlrpc.client", false,
    "Binary Boolean:builtins:bool BytesIO:_io DateTime Decimal:decimal Error ExpatParser Fault "
      ++ "GzipDecodedResponse Marshaller MultiCall MultiCallIterator ProtocolError "
      ++ "ResponseError SafeTransport Server:xmlrpc.client:ServerProxy ServerProxy Transport "
      ++ "Unmarshaller boolean:builtins:bool datetime:datetime",
    "dumps escape getparser gzip_decode gzip_encode loads",
    "APPLICATION_ERROR FastMarshaller FastParser FastUnmarshaller INTERNAL_ERROR "
      ++ "INVALID_ENCODING_CHAR INVALID_METHOD_PARAMS INVALID_XMLRPC MAXINT METHOD_NOT_FOUND "
      ++ "MININT NOT_WELLFORMED_ERROR PARSE_ERROR SERVER_ERROR SYSTEM_ERROR TRANSPORT_ERROR "
      ++ "UNSUPPORTED_ENCODING WRAPPERS"⟩,
  ⟨"xmlrpc.server", false,
    "BaseHTTPRequestHandler:http.server CGIXMLRPCRequestHandler DocCGIXMLRPCRequestHandler "
      ++ "DocXMLRPCRequestHandler DocXMLRPCServer Fault:xmlrpc.client MultiPathXMLRPCServer "
      ++ "ServerHTMLDoc SimpleXMLRPCDispatcher SimpleXMLRPCRequestHandler SimpleXMLRPCServer "
      ++ "XMLRPCDocGenerator partial:functools",
    "dumps gzip_decode gzip_encode list_public_methods loads resolve_dotted_attribute signature",
    ""⟩,
  ⟨"zipapp", false, "ZipAppError", "create_archive get_interpreter main",
    "MAIN_TEMPLATE shebang_encoding"⟩,
  ⟨"zipfile", false,
    "BadZipFile BadZipfile:zipfile:BadZipFile CompleteDirs FastLookup LZMACompressor "
      ++ "LZMADecompressor LargeZipFile Path PyZipFile ZipExtFile ZipFile ZipInfo "
      ++ "error:zipfile:BadZipFile", "crc32 is_zipfile main",
    "compressor_names sizeCentralDir sizeEndCentDir sizeEndCentDir64 sizeEndCentDir64Locator "
      ++ "sizeFileHeader stringCentralDir stringEndArchive stringEndArchive64 "
      ++ "stringEndArchive64Locator stringFileHeader structCentralDir structEndArchive "
      ++ "structEndArchive64 structEndArchive64Locator structFileHeader"⟩,
  ⟨"zipimport", false, "ZipImportError zipimporter", "",
    "END_CENTRAL_DIR_SIZE MAX_COMMENT_LEN STRING_END_ARCHIVE alt_path_sep cp437_table path_sep"⟩,
  ⟨"zlib", false, "error", "adler32 compress compressobj crc32 decompress decompressobj",
    "DEFLATED DEF_BUF_SIZE DEF_MEM_LEVEL MAX_WBITS ZLIB_RUNTIME_VERSION ZLIB_VERSION "
      ++ "Z_BEST_COMPRESSION Z_BEST_SPEED Z_BLOCK Z_DEFAULT_COMPRESSION Z_DEFAULT_STRATEGY "
      ++ "Z_FILTERED Z_FINISH Z_FIXED Z_FULL_FLUSH Z_HUFFMAN_ONLY Z_NO_COMPRESSION Z_NO_FLUSH "
      ++ "Z_PARTIAL_FLUSH Z_RLE Z_SYNC_FLUSH Z_TREES"⟩,
  ⟨"zoneinfo", true,
    "InvalidTZPathWarning:zoneinfo._tzpath ZoneInfo ZoneInfoNotFoundError:zoneinfo._common",
    "available_timezones reset_tzpath", ""⟩]

end WorkspaceLint.GivenModule
